import ProfileDrift.Proofs.SameSides
import ProfileDrift.Proofs.SwappedCurves

namespace ProfileDrift

namespace Double

variable {value other left right zero : Float}

/-- Two doubles that are the same number, or neither of which is finite. -/
def IsAlike (value other : Float) : Prop :=
  IsSame value other ∨ value.isFinite = false ∧ other.isFinite = false

namespace IsAlike

theorem refl (value : Float) : IsAlike value value := .inl (.refl value)

theorem isSame (alike : IsAlike value other) (finite : value.isFinite = true) :
    IsSame value other := by
  rcases alike with same | ⟨infinite, -⟩
  · exact same
  · rw [finite] at infinite
    cases infinite

/-- What is finite only at finite numbers need only be looked at for numbers that are the
same. -/
theorem map {f g : Float → Float} (keeps : ∀ {value other}, IsSame value other →
      IsAlike (f value) (g other))
    (strict : ∀ {value}, (f value).isFinite = true → value.isFinite = true)
    (strict' : ∀ {value}, (g value).isFinite = true → value.isFinite = true)
    (alike : IsAlike value other) : IsAlike (f value) (g other) := by
  rcases alike with same | ⟨infinite, infinite'⟩
  · exact keeps same
  · refine .inr ⟨Bool.eq_false_iff.mpr fun finite => ?_, Bool.eq_false_iff.mpr fun finite => ?_⟩
    · exact Bool.eq_false_iff.mp infinite (strict finite)
    · exact Bool.eq_false_iff.mp infinite' (strict' finite)

theorem sub (alike : IsAlike value other) (alike' : IsAlike left right) :
    IsAlike (value - left) (other - right) := by
  refine alike.map (f := (· - left)) (g := (· - right)) (fun same => ?_)
    isFinite_of_isFinite_sub_left isFinite_of_isFinite_sub_left
  exact alike'.map (fun same' => .inl (same.sub same')) isFinite_of_isFinite_sub
    isFinite_of_isFinite_sub

theorem mul (alike : IsAlike value other) (factor : Float) :
    IsAlike (factor * value) (factor * other) :=
  alike.map (fun same => .inl ((IsSame.refl factor).mul same)) isFinite_of_isFinite_mul
    isFinite_of_isFinite_mul

theorem div (alike : IsAlike value other) (divisor : Float) :
    IsAlike (value / divisor) (other / divisor) :=
  alike.map (f := (· / divisor)) (g := (· / divisor)) (fun same => .inl (same.div_left divisor))
    isFinite_of_isFinite_div isFinite_of_isFinite_div

end IsAlike

section Library

/-- The logarithm does not tell the zeros apart. -/
theorem ln_eq (same : IsSame value other) : ln value = ln other := by
  rcases same.eq_or_zeros with rfl | ⟨zero, zero'⟩
  · rfl
  · exact (if_pos zero).trans (if_pos zero').symm

theorem isFinite_of_isFinite_ln (finite : (ln value).isFinite = true) : value.isFinite = true := by
  by_contra infinite
  unfold ln at finite
  rw [if_neg infinite] at finite
  split_ifs at finite
  · exact absurd finite (by decide +kernel)
  · exact absurd finite (by decide +kernel)
  · exact infinite finite

theorem isFinite_div_zero (none : (zero == 0.0) = true) : (value / zero).isFinite = false := by
  obtain ⟨sign, parts⟩ := unpack_of_zero none
  refine Bool.eq_false_iff.mpr fun finite => ?_
  have quotient : (Float.Model.UnpackedFloat.div Float.Model.Format.binary64 value.toModel.unpack
    zero.toModel.unpack).isFinite = true := isFinite_of_unpack_pack finite
  rw [parts] at quotient
  generalize value.toModel.unpack = value at quotient
  cases value <;> cases quotient

theorem IsAlike.ln (alike : IsAlike value other) : IsAlike (Double.ln value) (Double.ln other) :=
  alike.map (fun same => ln_eq same ▸ .refl _) isFinite_of_isFinite_ln isFinite_of_isFinite_ln

theorem IsAlike.quotient (same : IsSame value other) (same' : IsSame left right) :
    IsAlike (value / left) (other / right) := by
  rcases same'.eq_or_zeros with rfl | ⟨zero, zero'⟩
  · exact .inl (same.div_left left)
  · exact .inr ⟨isFinite_div_zero zero, isFinite_div_zero zero'⟩

theorem power_exponent (same : IsSame value other) (base : Float) :
    power base value = power base other := by
  rcases same.eq_or_zeros with rfl | ⟨zero, zero'⟩
  · rfl
  · exact (if_pos zero).trans (if_pos zero').symm

/-- The powers of the zeros are zero, one or infinite. -/
theorem powerOfZero_alike (same : IsSame value other) (none : (value == 0.0) = true)
    (none' : (other == 0.0) = true) (exponent : Float) :
    IsAlike (powerOfZero value exponent) (powerOfZero other exponent) := by
  have base : IsSame (if isOdd exponent then value else 0.0)
      (if isOdd exponent then other else 0.0) := by
    split
    · exact same
    · exact .refl _
  have zeros {zero : Float} (none : (zero == 0.0) = true) :
      ((if isOdd exponent then zero else 0.0) == 0.0) = true := by
    split
    · exact none
    · decide +kernel
  unfold powerOfZero
  split
  · exact .inl base
  · split
    · exact .inr ⟨isFinite_div_zero (zeros none), isFinite_div_zero (zeros none')⟩
    · exact .refl _

theorem power_base (same : IsSame value other) (exponent : Float) :
    IsAlike (power value exponent) (power other exponent) := by
  rcases same.eq_or_zeros with rfl | ⟨zero, zero'⟩
  · exact .refl _
  · unfold power
    split
    · exact .refl _
    · exact powerOfZero_alike same zero zero' exponent

end Library

end Double

section Area

open Double (IsSame IsAlike)

variable {start stop start' stop' : Float}

theorem Model.logarithmArea_eq (same : IsSame start stop) :
    logarithmArea start = logarithmArea stop := by
  rcases same.eq_or_zeros with rfl | ⟨zero, zero'⟩
  · rfl
  · exact (if_pos zero).trans (if_pos zero').symm

/-- Signs of zeros at the ends of a range do not change an area, as far as there is one. -/
theorem Model.integral_alike (model : Model Float) (starts : IsSame start start')
    (stops : IsSame stop stop') : IsAlike (model.integral start stop) (model.integral start' stop') := by
  have level (height : Float) : IsSame (height * (stop - start)) (height * (stop' - start')) :=
    (IsSame.refl height).mul (stops.sub starts)
  unfold integral
  dsimp only
  cases model.family with
  | constant => exact .inl (level _)
  | linear =>
    refine .inl ((level _).add (IsSame.div_left ((IsSame.refl _).mul ?_) _))
    exact (stops.mul stops).sub (starts.mul starts)
  | quadratic =>
    refine .inl ((level _).add (IsSame.div_left ((IsSame.refl _).mul ?_) _))
    exact (stops.mul (stops.mul stops)).sub (starts.mul (starts.mul starts))
  | logarithmic =>
    dsimp only
    rw [logarithmArea_eq starts, logarithmArea_eq stops]
    exact .inl ((level _).add (.refl _))
  | power =>
    dsimp only
    split
    · exact (IsAlike.quotient stops starts).ln.mul _
    · exact (((Double.power_base stops _).sub (Double.power_base starts _)).mul _).div _
  | exponential =>
    dsimp only
    split
    · exact .inl (level _)
    · change IsAlike (_ * (Double.power _ stop - Double.power _ start) / _)
        (_ * (Double.power _ stop' - Double.power _ start') / _)
      rw [Double.power_exponent stops, Double.power_exponent starts]
      exact .refl _

end Area

namespace Method

open Double (IsSame IsOpposite)

section Verdict

variable {noChange change difference : Float}

theorem pos_of_areaChange (nonnegative : 0.0 ≤ noChange) (number : difference.isNaN = false)
    (worse : (areaChange noChange change difference).isDegradation = true) : 0.0 < difference := by
  unfold areaChange at worse
  dsimp only at worse
  rcases Double.positive_or_negative difference with above | below | own
  · exact above
  · rw [if_pos below, if_pos below] at worse
    split_ifs at worse <;> cases worse
  · have within : Scalar.abs difference ≤ noChange := by
      change difference.abs ≤ noChange
      rw [Double.abs_eq_zero own number]
      exact nonnegative
    rw [if_pos within] at worse
    cases worse

theorem neg_of_areaChange
    (better : (areaChange noChange change difference).isOptimization = true) :
    difference < 0.0 := by
  by_contra above
  unfold areaChange at better
  dsimp only at better
  rw [if_neg above, if_neg above] at better
  split_ifs at better <;> cases better

end Verdict

section Areas

variable {noChange change : Float} {baseline target : Profile Float} {uid : String}

/-- The sign of the difference of the areas can be told from the verdict. -/
theorem compareAreas_sign (nonnegative : 0.0 ≤ noChange) {report : ChangeReport Float}
    (compared : compareAreas noChange change baseline target uid = report)
    (known : report.kind ≠ .unknown) :
    ∃ base other start stop, baseline.bestModel? uid = some base ∧
      target.bestModel? uid = some other ∧ sharedRange? base other = some (start, stop) ∧
      (base.integral start stop).isFinite = true ∧ (other.integral start stop).isFinite = true ∧
      (report.kind.isDegradation = true →
        0.0 < other.integral start stop - base.integral start stop) ∧
      (report.kind.isOptimization = true →
        other.integral start stop - base.integral start stop < 0.0) := by
  obtain ⟨base, other, start, stop, found, found', shared, nonzero, finite, finite', kind, -⟩ :=
    compareAreas_decided compared known
  have accrued := Double.isAccrued_abs finite
  refine ⟨base, other, start, stop, found, found', shared, finite, finite', fun worse => ?_,
    fun better => ?_⟩
  · rw [kind] at worse
    have number := Double.isNaN_div_abs (Double.isNaN_sub finite' finite) finite nonzero
    exact Double.pos_of_div_pos accrued (pos_of_areaChange nonnegative number worse)
  · rw [kind] at better
    exact Double.neg_of_div_neg accrued (neg_of_areaChange better)

/-- Taken the other way round, the difference of the areas changes its sign and nothing
else. -/
theorem difference_swap {base other : Model Float} {start stop start' stop' : Float}
    (shared : sharedRange? base other = some (start, stop))
    (shared' : sharedRange? other base = some (start', stop'))
    (finite : (base.integral start stop).isFinite = true)
    (finite' : (other.integral start stop).isFinite = true) :
    IsOpposite (other.integral start stop - base.integral start stop)
      (base.integral start' stop' - other.integral start' stop') := by
  have ranges := sharedRange?_swap base other
  rw [shared, shared', Option.rel_some_some] at ranges
  obtain ⟨-, starts, stops⟩ := ranges
  have same := (base.integral_alike starts stops).isSame finite
  have same' := (other.integral_alike starts stops).isSame finite'
  exact (IsOpposite.sub _ _).of_same (same.sub same')

/-- Areas do not get worse in both directions, nor better. -/
theorem compareAreas_swap (nonnegative : 0.0 ≤ noChange) {forth back : ChangeReport Float}
    (compared : compareAreas noChange change baseline target uid = forth)
    (compared' : compareAreas noChange change target baseline uid = back)
    (known : forth.kind ≠ .unknown) (known' : back.kind ≠ .unknown) :
    ¬ (forth.kind.isDegradation = true ∧ back.kind.isDegradation = true) ∧
      ¬ (forth.kind.isOptimization = true ∧ back.kind.isOptimization = true) := by
  obtain ⟨base, other, start, stop, found, found', shared, finite, finite', worse, better⟩ :=
    compareAreas_sign nonnegative compared known
  obtain ⟨other', base', start', stop', again', again, shared', _, _, worse', better'⟩ :=
    compareAreas_sign nonnegative compared' known'
  obtain rfl := Option.some.inj (found.symm.trans again)
  obtain rfl := Option.some.inj (found'.symm.trans again')
  have opposite := difference_swap shared shared' finite finite'
  constructor
  · rintro ⟨forth, back⟩
    exact Double.not_lt_of_lt (worse forth) (opposite.zero_lt_iff.mp (worse' back))
  · rintro ⟨forth, back⟩
    exact Double.not_lt_of_lt (better forth) (opposite.lt_zero_iff.mp (better' back))

end Areas

/-- No two profiles are a degradation of each other, by areas or by curves, and by areas no
optimization of each other either. Both ways round the same range is shared, up to the signs of
zeros, and differences there change their sign only; the sign decides what the change is
called, however much it is relative to either side. -/
theorem compare_swapped [Tally Float] [LawfulTally] {name : String} {params : Keyed Float}
    {method : Method Float} (built : build name params = .ok method)
    (measures : method.name = .integral ∨ method.name = .fastCheck ∨
      method.name = .linearRegression) (baseline target : Profile Float) (uid : String) :
    ¬ ((method.compare baseline target uid).kind.isDegradation = true ∧
      (method.compare target baseline uid).kind.isDegradation = true) ∧
    (method.name = .integral →
      ¬ ((method.compare baseline target uid).kind.isOptimization = true ∧
        (method.compare target baseline uid).kind.isOptimization = true)) := by
  cases method with
  | averageAmount | modelOrder => rcases measures with other | other | other <;> cases other
  | fastCheck change | linearRegression change =>
    refine ⟨fun ⟨forth, back⟩ => ?_, nofun⟩
    exact Bool.false_ne_true ((compareCurves_swap forth).symm.trans back)
  | integral noChange change =>
    have nonnegative : 0.0 ≤ noChange := acceptsEqual_of_build built
    constructor
    · rintro ⟨forth, back⟩
      exact (compareAreas_swap nonnegative rfl rfl (ChangeKind.known_of_isDegradation forth)
        (ChangeKind.known_of_isDegradation back)).1 ⟨forth, back⟩
    · rintro - ⟨forth, back⟩
      exact (compareAreas_swap nonnegative rfl rfl (ChangeKind.known_of_isOptimization forth)
        (ChangeKind.known_of_isOptimization back)).2 ⟨forth, back⟩

open scoped Lanes

/-- A line that is twice as steep is worse, so the other way round it is not. -/
theorem compare_swapped_straight :
    build "int" .empty = .ok (integral (0.10 : Float) usualChange) ∧
      ((integral (0.10 : Float) usualChange).compare (straight 1.0 1.0) (straight 2.0 1.0)
        "main").kind.isDegradation = true ∧
      ((integral (0.10 : Float) usualChange).compare (straight 2.0 1.0) (straight 1.0 1.0)
        "main").kind.isDegradation = false := by
  have built : build "int" .empty = .ok (integral (0.10 : Float) usualChange) := rfl
  have worse : ((integral (0.10 : Float) usualChange).compare (straight 1.0 1.0)
      (straight 2.0 1.0) "main").kind.isDegradation = true := by decide +kernel
  obtain ⟨apart, -⟩ := compare_swapped built (.inl rfl) (straight 1.0 1.0) (straight 2.0 1.0) "main"
  exact ⟨built, worse, Bool.eq_false_iff.mpr fun back => apart ⟨worse, back⟩⟩

end Method

end ProfileDrift
