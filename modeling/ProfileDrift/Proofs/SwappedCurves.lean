import ProfileDrift.Proofs.DecidedReport
import ProfileDrift.Proofs.DoubleQuotient
import ProfileDrift.Proofs.LaneSums

namespace ProfileDrift

namespace Double

open Float.Model Float.Model.UnpackedFloat

variable {value other left right zero zero' : Float}

theorem eq_of_isNaN (meaningless : left.isNaN = true) (meaningless' : right.isNaN = true) :
    left = right := by
  change left.toModel.unpack.isNaN = true at meaningless
  change right.toModel.unpack.isNaN = true at meaningless'
  refine eq_of_unpack_eq ?_
  generalize left.toModel.unpack = left at meaningless ⊢
  generalize right.toModel.unpack = right at meaningless' ⊢
  cases left <;> cases meaningless
  cases right <;> cases meaningless'
  rfl

/-- Numbers of which neither is below the other are the same. -/
theorem isSame_of_not_lt (number : left.isNaN = false) (another : right.isNaN = false)
    (above : ¬ left < right) (below : ¬ right < left) : IsSame left right := by
  rw [lt_iff_place number another, not_lt] at above
  rw [lt_iff_place another number, not_lt] at below
  exact isSame_of_place_eq number another (below.antisymm above)

/-- Of two doubles the one that comes first is chosen, whichever is named first; what is not
a number is passed over. -/
theorem isSame_choice (ahead : Float → Float → Prop) [DecidableRel ahead]
    (numbers : ∀ {left right}, ahead left right → left.isNaN = false ∧ right.isNaN = false)
    (asymmetric : ∀ {left right}, ahead left right → ¬ ahead right left)
    (level : ∀ {left right}, left.isNaN = false → right.isNaN = false → ¬ ahead left right →
      ¬ ahead right left → IsSame left right) (left right : Float) :
    IsSame (if right.isNaN then left else if ahead left right then left else right)
      (if left.isNaN then right else if ahead right left then right else left) := by
  by_cases first : ahead left right
  · obtain ⟨number, another⟩ := numbers first
    rw [number, another, if_pos first, if_neg (asymmetric first)]
    exact .refl left
  by_cases second : ahead right left
  · obtain ⟨another, number⟩ := numbers second
    rw [number, another, if_neg first, if_pos second]
    exact .refl right
  rw [if_neg first, if_neg second]
  cases number : left.isNaN with
  | true =>
    cases another : right.isNaN with
    | true =>
      rw [eq_of_isNaN number another]
      exact .refl right
    | false => exact .refl right
  | false =>
    cases another : right.isNaN with
    | true => exact .refl left
    | false => exact (level number another first second).symm

theorem larger_comm (left right : Float) :
    IsSame (Scalar.larger left right) (Scalar.larger right left) :=
  isSame_choice (fun left right => right < left)
    (fun above => (not_isNaN_of_le (le_of_lt above)).symm) not_lt_of_lt
    (fun number another below above => isSame_of_not_lt number another above below) left right

theorem smaller_comm (left right : Float) :
    IsSame (Scalar.smaller left right) (Scalar.smaller right left) :=
  isSame_choice (fun left right => left < right)
    (fun below => not_isNaN_of_le (le_of_lt below)) not_lt_of_lt isSame_of_not_lt left right

section Zero

theorem unpack_of_zero (none : (zero == 0.0) = true) :
    ∃ sign, zero.toModel.unpack = .zero sign := by
  change UnpackedFloat.beq zero.toModel.unpack (.zero .positive) = true at none
  generalize zero.toModel.unpack = parts at none ⊢
  cases parts with
  | zero sign => exact ⟨sign, rfl⟩
  | notANumber => cases none
  | infinity sign | finite sign => cases sign <;> cases none

theorem isSame_zero (none : (zero == 0.0) = true) : IsSame zero 0.0 := by
  obtain ⟨sign, parts⟩ := unpack_of_zero none
  unfold IsSame
  rw [parts]
  exact .zeros sign .positive

theorem sub_zero (none : (zero == 0.0) = true) (above : 0.0 < value) : value - zero = value := by
  obtain ⟨sign, parts⟩ := unpack_of_zero none
  have kept : UnpackedFloat.sub Format.binary64 value.toModel.unpack (.zero sign) =
      value.toModel.unpack := by
    rw [lt_iff] at above
    change UnpackedFloat.compare (.zero .positive) _ = _ at above
    generalize value.toModel.unpack = parts at above ⊢
    cases parts with
    | zero => cases above
    | notANumber | infinity | finite => rfl
  refine eq_of_unpack_eq ?_
  rw [unpack_sub, parts, kept, unpack_pack_unpack]

theorem zero_sub (none : (zero == 0.0) = true) (below : value < 0.0) : zero - value = -value := by
  obtain ⟨sign, parts⟩ := unpack_of_zero none
  have turned : UnpackedFloat.sub Format.binary64 (.zero sign) value.toModel.unpack =
      value.toModel.unpack.neg := by
    rw [lt_iff] at below
    change UnpackedFloat.compare _ (.zero .positive) = _ at below
    generalize value.toModel.unpack = parts at below ⊢
    cases parts with
    | zero => cases below
    | notANumber | infinity | finite => rfl
  refine eq_of_unpack_eq ?_
  rw [unpack_sub, parts, turned, unpack_neg]

theorem zero_add (none : (zero == 0.0) = true) (accrued : IsAccrued value) :
    zero + value = value := by
  obtain ⟨sign, parts⟩ := unpack_of_zero none
  have kept : UnpackedFloat.add Format.binary64 (.zero sign) value.toModel.unpack =
      value.toModel.unpack := by
    unfold IsAccrued at accrued
    generalize value.toModel.unpack = parts at accrued ⊢
    cases accrued with
    | zero => cases sign <;> rfl
    | finite | infinity | notANumber => rfl
  refine eq_of_unpack_eq ?_
  rw [unpack_add, parts, kept, unpack_pack_unpack]

end Zero

section Product

/-- What has accrued can be multiplied by what has, and no sign appears. -/
theorem Accrued.mul {value other : UnpackedFloat} (accrued : Accrued value)
    (another : Accrued other) : Accrued (UnpackedFloat.mul Format.binary64 value other) := by
  cases accrued with
  | zero =>
    cases another with
    | zero | finite => exact .zero
    | infinity | notANumber => exact .notANumber
  | infinity =>
    cases another with
    | infinity | finite => exact .infinity
    | zero | notANumber => exact .notANumber
  | notANumber => cases another <;> exact .notANumber
  | @finite mantissa exponent positive canonical =>
    cases another with
    | zero => exact .zero
    | infinity => exact .infinity
    | notANumber => exact .notANumber
    | @finite mantissa' exponent' positive' canonical' =>
      have long : 52 ≤ (mantissa * mantissa').log2 ∨ exponent + exponent' ≤ -1074 := by
        have full := canonical.full
        have full' := canonical'.full
        dsimp only at full full'
        rw [Nat.le_log2 (Nat.mul_pos positive positive').ne']
        rcases full with wide | least
        · exact .inl (wide.trans (Nat.le_mul_of_pos_right mantissa positive'))
        · rcases full' with wide' | least'
          · exact .inl (wide'.trans (Nat.le_mul_of_pos_left mantissa' positive))
          · exact .inr (by omega)
      obtain ⟨size, kept, -, rounded⟩ := exists_roundWithAccuracy .positive .exact long
      exact (congrArg Accrued rounded).mpr (accrued_signed kept)

theorem IsAccrued.mul (accrued : IsAccrued left) (another : IsAccrued right) :
    IsAccrued (left * right) := by
  rw [IsAccrued, unpack_mul]
  exact (Accrued.mul accrued another).unpack_pack.1

theorem isAccrued_ofNat {count : ℕ} (narrow : count < 2 ^ 53) : IsAccrued (Float.ofNat count) := by
  rcases Nat.eq_zero_or_pos count with rfl | positive
  · rw [ofNat_zero]
    exact .zero
  · obtain ⟨size, holds⟩ := holds_ofNat positive narrow
    rw [IsAccrued, holds.parts]
    exact accrued_signed holds.canonical

end Product

end Double

section Range

open Double (IsSame)

/-- Both models share the same range whichever is named first. -/
theorem Method.sharedRange?_swap (base other : Model Float) :
    Option.Rel (fun range swapped => range.1 < range.2 ∧ IsSame range.1 swapped.1 ∧
      IsSame range.2 swapped.2) (sharedRange? base other) (sharedRange? other base) := by
  have starts := Double.larger_comm base.xStart other.xStart
  have stops := Double.smaller_comm base.xEnd other.xEnd
  unfold sharedRange?
  dsimp only
  by_cases inside : Scalar.larger base.xStart other.xStart < Scalar.smaller base.xEnd other.xEnd
  · rw [if_pos inside, if_pos ((starts.lt_iff_lt stops).mp inside)]
    exact .some ⟨inside, starts, stops⟩
  · rw [if_neg inside, if_neg fun swapped => inside ((starts.lt_iff_lt stops).mpr swapped)]
    exact .none

variable {start stop start' stop' : Float}

/-- The sign of a zero at one end of a range is lost on all sizes that are sampled. -/
theorem CurveDifference.sampleSizes_eq (inside : start < stop) (starts : IsSame start start')
    (stops : IsSame stop stop') : sampleSizes start stop = sampleSizes start' stop' := by
  rcases starts.eq_or_zeros with rfl | ⟨zero, zero'⟩
  · rcases stops.eq_or_zeros with rfl | ⟨zero, zero'⟩
    · rfl
    · have below : start < 0.0 :=
        ((IsSame.refl start).lt_iff_lt (Double.isSame_zero zero)).mp inside
      unfold sampleSizes
      rw [Double.zero_sub zero below, Double.zero_sub zero' below]
  · have above : 0.0 < stop := ((Double.isSame_zero zero).lt_iff_lt (IsSame.refl stop)).mp inside
    have nonzero : ¬ ((stop == 0.0) = true ∧ (stop' == 0.0) = true) := by
      rintro ⟨none, -⟩
      have below := ((IsSame.refl 0.0).lt_iff_lt (Double.isSame_zero none)).mp above
      exact Double.not_lt_of_lt below below
    obtain rfl := stops.eq_or_zeros.resolve_right nonzero
    unfold sampleSizes
    rw [Double.sub_zero zero above, Double.sub_zero zero' above]
    refine List.map_congr_left fun index member => ?_
    have within : index < 1000 := List.mem_range.mp member
    have accrued : Double.IsAccrued (stop / Scalar.ofCount (sampleCount - 1) *
        Scalar.ofCount index) :=
      ((Double.isAccrued_of_pos above).div (Double.isAccrued_ofNat (by decide))).mul
        (Double.isAccrued_ofNat (by omega))
    rw [Double.zero_add zero accrued, Double.zero_add zero' accrued]

end Range

section Samples

open Double (IsOpposite)

namespace CurveDifference

/-- Both ways round a difference is finite at the same sizes, with the opposite sign. -/
theorem samples_swap (base other : Model Float) (sizes : List Float) :
    List.Forall₂ (fun sample swapped => IsOpposite sample.1.y swapped.1.y)
      (samples base other sizes) (samples other base sizes) := by
  induction sizes with
  | nil => exact .nil
  | cons size sizes ih =>
    have opposite := IsOpposite.sub (other.evaluate size) (base.evaluate size)
    have finite : Scalar.isFinite (base.evaluate size - other.evaluate size) =
        Scalar.isFinite (other.evaluate size - base.evaluate size) := opposite.isFinite
    unfold samples at ih ⊢
    rw [List.filterMap_cons, List.filterMap_cons]
    dsimp only
    rw [finite]
    cases Scalar.isFinite (other.evaluate size - base.evaluate size) with
    | true => exact .cons opposite ih
    | false => exact ih

variable {base other : Model Float} {difference swapped : CurveDifference Float}

/-- Only a total above zero is a degradation. -/
theorem total_pos_of_isDegradation {threshold : Float}
    (worse : (difference.change threshold).isDegradation = true) : 0.0 < difference.total := by
  by_contra level
  unfold change at worse
  rw [if_neg level] at worse
  split_ifs at worse <;> cases worse

variable [Tally Float] [LawfulTally]

/-- The other way round the total changes its sign and nothing else. -/
theorem total_swap (sampled : sample? base other = some difference)
    (sampled' : sample? other base = some swapped) :
    IsOpposite difference.total swapped.total := by
  obtain ⟨start, stop, shared, total, -⟩ := exists_range_of_sample? sampled
  obtain ⟨start', stop', shared', total', -⟩ := exists_range_of_sample? sampled'
  have ranges := Method.sharedRange?_swap base other
  rw [shared, shared', Option.rel_some_some] at ranges
  obtain ⟨inside, starts, stops⟩ := ranges
  rw [total, total', ← sampleSizes_eq inside starts stops]
  refine LawfulTally.sum_opposite ?_
  rw [List.forall₂_map_left_iff, List.forall₂_map_right_iff]
  exact (samples_swap base other _).imp fun _ _ opposite => opposite.toSingle

theorem not_isDegradation_swap (sampled : sample? base other = some difference)
    (sampled' : sample? other base = some swapped) {threshold : Float}
    (worse : (difference.change threshold).isDegradation = true) :
    (swapped.change threshold).isDegradation = false := by
  have opposite := total_swap sampled sampled'
  by_contra worse'
  have above := total_pos_of_isDegradation worse
  have above' := total_pos_of_isDegradation (Bool.not_eq_false _ ▸ worse')
  exact Double.not_lt_of_lt above (opposite.zero_lt_iff.mp above')

end CurveDifference

end Samples

theorem ChangeKind.known_of_isDegradation {kind : ChangeKind} (worse : kind.isDegradation = true) :
    kind ≠ .unknown := by
  rintro rfl
  cases worse

theorem ChangeKind.known_of_isOptimization {kind : ChangeKind}
    (better : kind.isOptimization = true) : kind ≠ .unknown := by
  rintro rfl
  cases better

/-- Curves do not get worse in both directions. -/
theorem Method.compareCurves_swap [Tally Float] [LawfulTally] {name : MethodName}
    {threshold : Float} {shape : CurveDifference Float → String}
    {baseline target : Profile Float} {uid : String}
    (worse : (compareCurves name threshold shape baseline target uid).kind.isDegradation = true) :
    (compareCurves name threshold shape target baseline uid).kind.isDegradation = false := by
  by_contra worse'
  rw [Bool.not_eq_false] at worse'
  obtain ⟨base, other, difference, found, found', sampled, kind, -⟩ :=
    compareCurves_decided rfl (ChangeKind.known_of_isDegradation worse)
  obtain ⟨other', base', swapped, again', again, sampled', kind', -⟩ :=
    compareCurves_decided rfl (ChangeKind.known_of_isDegradation worse')
  obtain rfl := Option.some.inj (found.symm.trans again)
  obtain rfl := Option.some.inj (found'.symm.trans again')
  rw [kind] at worse
  rw [kind'] at worse'
  exact absurd worse' (Bool.not_eq_true _ ▸
    CurveDifference.not_isDegradation_swap sampled sampled' worse)

end ProfileDrift
