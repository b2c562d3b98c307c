import ProfileDrift.Proofs.DecidedReport
import ProfileDrift.Proofs.DoubleQuotient
import ProfileDrift.Proofs.SameSides
import ProfileDrift.Scalar.Blocks

namespace ProfileDrift

namespace CurveDifference

variable {difference : CurveDifference Float} {threshold : Float}

theorem isUnchanged_iff : difference.isUnchanged = true ↔
    difference.baseline.family = difference.target.family ∧
      ∀ before after, (before, after) ∈
        difference.baseline.coefficients.zip difference.target.coefficients →
          (after - before).abs ≤ 0.05 * before.abs := by
  unfold isUnchanged
  rw [Bool.and_eq_true, decide_eq_true_iff, List.all_eq_true]
  refine and_congr_right' ⟨fun close before after member => ?_, fun close pair member => ?_⟩
  · exact of_decide_eq_true (close (before, after) member)
  · exact decide_eq_true (close pair.1 pair.2 member)

theorem change_eq_noChange_iff :
    difference.change threshold = .noChange ↔ difference.isUnchanged = true := by
  unfold change
  constructor
  · intro none
    by_contra changed
    rw [if_neg changed] at none
    split_ifs at none
  · intro unchanged
    rw [if_pos unchanged]

/-- Whether a change is one for the worse is up to the total. -/
theorem change_isDegradation_iff (changed : difference.isUnchanged = false) :
    ((difference.change threshold).isDegradation = true ↔ 0.0 < difference.total) ∧
      ((difference.change threshold).isOptimization = true ↔ ¬ 0.0 < difference.total) := by
  unfold change
  rw [changed, if_neg Bool.false_ne_true]
  by_cases above : (0.0 : Float) < difference.total
  · rw [if_pos above]
    split <;> exact ⟨iff_of_true rfl above, iff_of_false nofun (not_not_intro above)⟩
  · rw [if_neg above]
    split <;> exact ⟨iff_of_false nofun above, iff_of_true rfl above⟩

/-- Beyond the threshold the mean is on the side of its sign. -/
theorem beyond_iff (positive : 0.0 < threshold) {mean : Float} (beyond : threshold < mean.abs) :
    (threshold < mean ↔ 0.0 < mean) ∧ (mean < -threshold ↔ mean < 0.0) := by
  have negative : -threshold < 0.0 := (Double.IsOpposite.neg threshold).lt_zero_iff.mpr positive
  refine ⟨⟨Double.lt_lt_trans positive, fun above => ?_⟩,
    ⟨fun less => Double.lt_lt_trans less negative, fun below => ?_⟩⟩
  · rcases Double.lt_abs positive beyond with ⟨more, -⟩ | ⟨-, below⟩
    · exact more
    · exact absurd below (Double.not_lt_of_lt above)
  · rcases Double.lt_abs positive beyond with ⟨-, above⟩ | ⟨less, -⟩
    · exact absurd below (Double.not_lt_of_lt above)
    · exact less

/-- Beyond the threshold a change is certain where the mean has the sign of the total. -/
theorem change_certain_iff (positive : 0.0 < threshold)
    (beyond : threshold < difference.relative.abs) (changed : difference.isUnchanged = false) :
    (difference.change threshold = .degradation ↔
        0.0 < difference.total ∧ 0.0 < difference.relative) ∧
      (difference.change threshold = .optimization ↔
        ¬ 0.0 < difference.total ∧ difference.relative < 0.0) := by
  obtain ⟨more, less⟩ := beyond_iff positive beyond
  unfold change
  rw [changed, if_neg Bool.false_ne_true]
  by_cases above : (0.0 : Float) < difference.total
  · rw [if_pos above, ← more]
    refine ⟨?_, iff_of_false (by split <;> exact nofun) fun other => other.1 above⟩
    split
    · rename_i certain
      exact iff_of_true rfl ⟨above, certain⟩
    · rename_i uncertain
      exact iff_of_false nofun fun other => uncertain other.2
  · rw [if_neg above, ← less]
    refine ⟨iff_of_false (by split <;> exact nofun) fun other => above other.1, ?_⟩
    split
    · rename_i certain
      exact iff_of_true rfl ⟨above, certain⟩
    · rename_i uncertain
      exact iff_of_false nofun fun other => uncertain other.2

/-- Two levels differ by the same at every size. -/
theorem sample?_levels [Tally Float] {base other : Model Float} {height height' start stop : Float}
    (level : ∀ x, base.evaluate x = height) (level' : ∀ x, other.evaluate x = height')
    (shared : Method.sharedRange? base other = some (start, stop))
    (finite : Scalar.isFinite (height' - height) = true)
    (definite : Scalar.isFinite (Scalar.toSingle ((height' - height) / Scalar.abs height)) = true) :
    ∃ difference, sample? base other = some difference ∧
      difference.total =
        Tally.sum (List.replicate sampleCount (Scalar.toSingle (height' - height))) ∧
      difference.relative = Tally.mean (List.replicate sampleCount
        (Scalar.toSingle ((height' - height) / Scalar.abs height))) := by
  have sampled (sizes : List Float) :
      samples base other sizes = sizes.map fun x => (⟨x, height' - height⟩, height) := by
    unfold samples
    rw [← List.filterMap_eq_map]
    refine List.filterMap_congr fun x _ => ?_
    dsimp only
    rw [level, level', if_pos finite]
    rfl
  have count : (sampleSizes start stop).length = sampleCount := by
    rw [sampleSizes, List.length_map, List.length_range]
  have rated : ratios (samples base other (sampleSizes start stop)) =
      List.replicate sampleCount (Scalar.toSingle ((height' - height) / Scalar.abs height)) := by
    rw [sampled, ratios, List.filterMap_map, ← count, ← List.map_const', ← List.filterMap_eq_map]
    refine List.filterMap_congr fun x _ => ?_
    exact if_pos definite
  unfold sample?
  rw [shared]
  dsimp only
  rw [if_neg ?_, rated, if_neg ?_]
  · refine ⟨_, rfl, ?_, rfl⟩
    dsimp only
    rw [sampled, List.map_map, List.map_map, ← count, ← List.map_const']
    rfl
  · rw [List.isEmpty_iff, List.replicate_eq_nil_iff]
    exact Nat.succ_ne_zero _
  · rw [sampled, List.isEmpty_iff, List.map_eq_nil_iff, ← List.length_eq_zero_iff, count]
    exact Nat.succ_ne_zero _

end CurveDifference

namespace Method

section Built

variable {α : Type} [Scalar α] {name : String} {params : Keyed α} {threshold : α}

theorem threshold_pos_of_buildChange {known : MethodName} {params : List (String × α)}
    (built : buildChange known params = .ok threshold) : 0.0 < threshold := by
  obtain ⟨change, _, built⟩ := bind_eq_ok built
  split at built
  · cases built
  · rename_i accepted
    cases built
    simp only [Bool.not_eq_true', decide_eq_false_iff_not, Decidable.not_not] at accepted
    exact accepted.1

/-- The threshold of a method that compares curves is above zero. -/
theorem threshold_pos_of_build {method : Method α} (built : build name params = .ok method)
    (curves : method = .fastCheck threshold ∨ method = .linearRegression threshold) :
    0.0 < threshold := by
  have named := ofText?_of_build built
  unfold build at built
  rw [named] at built
  rcases curves with rfl | rfl
  · obtain ⟨change, made, same⟩ := map_eq_ok built
    cases same
    exact threshold_pos_of_buildChange made
  · obtain ⟨change, made, same⟩ := map_eq_ok built
    cases same
    exact threshold_pos_of_buildChange made

end Built

/-- A mean relative difference beyond the threshold makes a change certain, unless the best
models are of one family with all coefficients within tolerance, which counts as none, or the
sum of the differences has another sign than their relative mean. Whether the change is one
for the worse is up to the sum. -/
theorem compare_certain [Tally Float] {name : String} {params : Keyed Float}
    {method : Method Float} (built : build name params = .ok method) {threshold : Float}
    (curves : method = .fastCheck threshold ∨ method = .linearRegression threshold)
    (baseline target : Profile Float) (uid : String) {rate : Float}
    (rated : (method.compare baseline target uid).rate = some rate)
    (beyond : threshold < rate.abs) :
    let kind := (method.compare baseline target uid).kind
    ∃ base other difference, baseline.bestModel? uid = some base ∧
      target.bestModel? uid = some other ∧
      CurveDifference.sample? base other = some difference ∧ rate = difference.relative ∧
      (kind = .noChange ↔ base.family = other.family ∧
        ∀ before after, (before, after) ∈ base.coefficients.zip other.coefficients →
          (after - before).abs ≤ 0.05 * before.abs) ∧
      (kind ≠ .noChange →
        (kind.isDegradation = true ↔ 0.0 < difference.total) ∧
        (kind.isOptimization = true ↔ ¬ 0.0 < difference.total) ∧
        (kind = .degradation ↔ 0.0 < difference.total ∧ 0.0 < rate) ∧
        (kind = .optimization ↔ ¬ 0.0 < difference.total ∧ rate < 0.0)) := by
  intro kind
  have positive := threshold_pos_of_build built curves
  have known : kind ≠ .unknown := by
    have tells : TellsModels _ (baseline.bestModel? uid) (target.bestModel? uid)
        (method.compare baseline target uid) :=
      compare_tells (by rcases curves with rfl | rfl <;> exact nofun)
    exact (tells.rate_iff.mp (Option.isSome_of_eq_some rated)).1
  obtain ⟨base, other, difference, found, found', sampled, changed, measured⟩ :
      ∃ base other difference, baseline.bestModel? uid = some base ∧
        target.bestModel? uid = some other ∧
        CurveDifference.sample? base other = some difference ∧
        kind = difference.change threshold ∧
        (method.compare baseline target uid).rate = some difference.relative := by
    rcases curves with rfl | rfl
    · exact compareCurves_decided rfl known
    · exact compareCurves_decided rfl known
  obtain ⟨rfl, rfl⟩ := models_of_sample? sampled
  obtain rfl := Option.some.inj (rated.symm.trans measured)
  refine ⟨_, _, difference, found, found', sampled, rfl, ?_, fun some => ?_⟩
  · rw [changed, CurveDifference.change_eq_noChange_iff, CurveDifference.isUnchanged_iff]
  · rw [changed] at some ⊢
    have apart := Bool.eq_false_iff.mpr (mt CurveDifference.change_eq_noChange_iff.mpr some)
    obtain ⟨worse, better⟩ := CurveDifference.change_isDegradation_iff apart
    exact ⟨worse, better, CurveDifference.change_certain_iff positive beyond apart⟩

/-- A profile that carries a level. -/
def levelled (height : Float) : Profile Float :=
  (Profile.blank ⟨"time", "./bin", "", "", []⟩ "time").withModels "main"
    [⟨.constant, [height], 1.0, 0.0, 1.0⟩]

theorem bestModel?_levelled (height : Float) :
    (levelled height).bestModel? "main" = some ⟨.constant, [height], 1.0, 0.0, 1.0⟩ := by
  have stored : (levelled height).modelsOf "main" = [⟨.constant, [height], 1.0, 0.0, 1.0⟩] := rfl
  have definite : Scalar.isFinite (1.0 : Float) = true := by decide +kernel
  rw [Profile.bestModel?, stored]
  exact if_pos definite

/-- Levels whose relative difference is beyond a threshold. -/
theorem compare_levelled [Tally Float] {height height' threshold : Float}
    (positive : 0.0 < threshold)
    (finite : Scalar.isFinite (height' - height) = true)
    (definite : Scalar.isFinite (Scalar.toSingle ((height' - height) / Scalar.abs height)) = true)
    (mean : threshold < Tally.mean (List.replicate CurveDifference.sampleCount
      (Scalar.toSingle ((height' - height) / Scalar.abs height)))) :
    let report := (fastCheck threshold).compare (levelled height) (levelled height') "main"
    ∃ difference : CurveDifference Float,
      CurveDifference.sample? ⟨.constant, [height], 1.0, 0.0, 1.0⟩
        ⟨.constant, [height'], 1.0, 0.0, 1.0⟩ = some difference ∧
      difference.total = Tally.sum
        (List.replicate CurveDifference.sampleCount (Scalar.toSingle (height' - height))) ∧
      0.0 < difference.relative ∧ threshold < difference.relative.abs ∧
      report.kind = difference.change threshold ∧ report.rate = some difference.relative := by
  intro report
  have inside : Scalar.larger (0.0 : Float) 0.0 < Scalar.smaller (1.0 : Float) 1.0 := by
    decide +kernel
  obtain ⟨difference, sampled, total, relative⟩ :=
    @CurveDifference.sample?_levels _ ⟨.constant, [height], 1.0, 0.0, 1.0⟩
      ⟨.constant, [height'], 1.0, 0.0, 1.0⟩ height height' _ _ (fun _ => rfl) (fun _ => rfl)
      (if_pos inside) finite definite
  rw [← relative] at mean
  have above := Double.lt_lt_trans positive mean
  refine ⟨difference, sampled, total, above, by rwa [Double.abs_of_pos above], ?_⟩
  change (compareCurves .fastCheck threshold _ _ _ _).kind = _ ∧
    (compareCurves .fastCheck threshold _ _ _ _).rate = _
  unfold compareCurves reportOnModels
  rw [bestModel?_levelled, bestModel?_levelled]
  dsimp only
  rw [sampled]
  exact ⟨rfl, rfl⟩

open scoped Lanes

/-- A level that doubles is a degradation for certain. -/
theorem compare_certain_doubled :
    let report := (fastCheck (usualChange : Float)).compare (levelled 1.0) (levelled 2.0) "main"
    build "fast" .empty = .ok (fastCheck (usualChange : Float)) ∧
      (∃ rate, report.rate = some rate ∧ usualChange < rate.abs) ∧ report.kind = .degradation := by
  intro report
  have built : build "fast" .empty = .ok (fastCheck (usualChange : Float)) := rfl
  have sum : Tally.sum (List.replicate CurveDifference.sampleCount
      (Scalar.toSingle (2.0 - 1.0 : Float))) = 1000.0 := by decide +kernel
  have mean : usualChange < Tally.mean (List.replicate CurveDifference.sampleCount
      (Scalar.toSingle ((2.0 - 1.0) / Scalar.abs (1.0 : Float)))) := by
    have same : ((2.0 - 1.0) / Scalar.abs 1.0 : Float) = 2.0 - 1.0 := by decide +kernel
    rw [same, Lanes.mean_eq, sum, List.length_replicate]
    decide +kernel
  obtain ⟨difference, sampled, total, above, beyond, -, rated⟩ :=
    @compare_levelled _ 1.0 2.0 usualChange (threshold_pos_of_build built (.inl rfl))
      (by decide +kernel) (by decide +kernel) mean
  obtain ⟨base, other, difference', found, found', sampled', -, none, verdict⟩ :=
    compare_certain built (.inl rfl) (levelled 1.0) (levelled 2.0) "main" rated beyond
  rw [bestModel?_levelled] at found found'
  cases found
  cases found'
  obtain rfl := Option.some.inj (sampled.symm.trans sampled')
  have positive : 0.0 < difference.total := by
    rw [total, sum]
    decide +kernel
  have apart : report.kind ≠ .noChange := fun unchanged =>
    absurd ((none.mp unchanged).2 1.0 2.0 (List.mem_cons_self ..)) (by decide +kernel)
  exact ⟨built, ⟨_, rated, beyond⟩, (verdict apart).2.2.1.mpr ⟨positive, above⟩⟩

/-- A level that rises by four hundredths counts as unchanged, though the mean relative
difference is beyond a threshold of one hundredth. And a sum of differences that are too small
for single precision is zero, however large they are relative to the baseline. -/
theorem uncertain_beyond_threshold :
    let report := (fastCheck (0.01 : Float)).compare (levelled 100.0) (levelled 104.0) "main"
    let other := (fastCheck (usualChange : Float)).compare (levelled 1e-60) (levelled 1e-50) "main"
    (build "fast_check" (.ofList [("change_threshold", 0.01)]) = .ok (fastCheck (0.01 : Float)) ∧
      (∃ rate, report.rate = some rate ∧ 0.01 < rate.abs ∧ 0.0 < rate) ∧
      report.kind = .noChange) ∧
    build "fast_check" .empty = .ok (fastCheck (usualChange : Float)) ∧
      (∃ rate, other.rate = some rate ∧ usualChange < rate.abs ∧ 0.0 < rate) ∧
      other.kind = .maybeOptimization := by
  intro report other
  have built : build "fast_check" (.ofList [("change_threshold", 0.01)]) =
      .ok (fastCheck (0.01 : Float)) := rfl
  have built' : build "fast_check" .empty = .ok (fastCheck (usualChange : Float)) := rfl
  have positive' := threshold_pos_of_build built' (.inl rfl)
  obtain ⟨difference, -, -, above, beyond, -, rated⟩ :=
    @compare_levelled _ 100.0 104.0 0.01 (threshold_pos_of_build built (.inl rfl))
      (by decide +kernel) (by decide +kernel) (by decide +kernel)
  obtain ⟨small, sampled, total, above', beyond', verdict, rated'⟩ :=
    @compare_levelled _ 1e-60 1e-50 usualChange positive'
      (by decide +kernel) (by decide +kernel) (by decide +kernel)
  refine ⟨⟨built, ⟨_, rated, beyond, above⟩, by decide +kernel⟩, built',
    ⟨_, rated', beyond', above'⟩, ?_⟩
  have changed : small.isUnchanged = false := by
    obtain ⟨base, target⟩ := models_of_sample? sampled
    refine Bool.eq_false_iff.mpr fun unchanged => ?_
    have close := (CurveDifference.isUnchanged_iff.mp unchanged).2 1e-60 1e-50
    rw [base, target] at close
    exact absurd (close (List.mem_cons_self ..)) (by decide +kernel)
  have none : ¬ 0.0 < small.total := by
    rw [total]
    decide +kernel
  have better : (small.change usualChange).isOptimization = true :=
    (CurveDifference.change_isDegradation_iff changed).2.mpr none
  have unsure : small.change usualChange ≠ .optimization := fun certain =>
    Double.not_lt_of_lt above'
      ((CurveDifference.change_certain_iff positive' beyond' changed).2.mp certain).2
  change other.kind = small.change usualChange at verdict
  rw [verdict]
  generalize small.change usualChange = kind at better unsure ⊢
  cases kind with
  | maybeOptimization => rfl
  | optimization => exact absurd rfl unsure
  | _ => cases better

end Method

end ProfileDrift
