import ProfileDrift.Proofs.CoherentReport

namespace ProfileDrift

variable {α : Type} [Scalar α]

/-- A difference is sampled over the range that both models share. -/
theorem CurveDifference.exists_range_of_sample? [Tally α] {base other : Model α}
    {difference : CurveDifference α} (sampled : sample? base other = some difference) :
    ∃ start stop, Method.sharedRange? base other = some (start, stop) ∧
      let found := samples base other (sampleSizes start stop)
      difference.total = Tally.sum (found.map fun sample => Scalar.toSingle sample.1.y) ∧
      difference.relative =
        if (ratios found).isEmpty then 0.0 else Tally.mean (ratios found) := by
  unfold sample? at sampled
  split at sampled
  · cases sampled
  · rename_i start stop shared
    dsimp only at sampled
    split at sampled
    · cases sampled
    · cases sampled
      dsimp only
      rw [List.map_map]
      exact ⟨start, stop, shared, rfl, rfl⟩

namespace Method

variable {baseline target : Profile α} {uid : String}

/-- Only the best models of both sides decide anything. -/
theorem models_of_reportOnModels {name : MethodName} {subtype : String}
    {judge : Model α → Model α → ChangeReport α → ChangeReport α}
    (known : (reportOnModels name subtype baseline target uid judge).kind ≠ .unknown) :
    ∃ base other begun, baseline.bestModel? uid = some base ∧
      target.bestModel? uid = some other ∧ begun.kind = .unknown ∧
      reportOnModels name subtype baseline target uid judge = judge base other begun := by
  unfold reportOnModels at known ⊢
  dsimp only at known ⊢
  split at known
  · rename_i base other found found'
    exact ⟨base, other, _, found, found', rfl, rfl⟩
  · exact absurd rfl known

/-- Mean amounts decide once there are two of them with a ratio. -/
theorem compareAverages_decided [Tally α] [Hundredths α] {degradation optimization : α}
    {report : ChangeReport α}
    (compared : compareAverages degradation optimization baseline target uid = report)
    (known : report.kind ≠ .unknown) :
    ∃ before after, averageAmount? baseline uid = some before ∧
      averageAmount? target uid = some after ∧ (before == 0.0) = false ∧
      Scalar.isFinite before = true ∧ Scalar.isFinite after = true ∧
      report.kind = ratioChange degradation optimization (after / before) ∧
      report.rate = some (after / before) := by
  subst compared
  unfold compareAverages at known ⊢
  dsimp only at known ⊢
  split at known
  · rename_i before after found found'
    split at known
    · exact absurd rfl known
    · rename_i regular
      rw [if_neg regular]
      simp only [Bool.or_eq_true, Bool.not_eq_true', not_or, Bool.not_eq_true,
        Bool.not_eq_false] at regular
      exact ⟨before, after, found, found', regular.1.1, regular.1.2, regular.2, rfl, rfl⟩
  · exact absurd rfl known

/-- The order of models decides once both sides have a best one. -/
theorem compareOrder_decided {threshold : α} {report : ChangeReport α}
    (compared : compareOrder threshold baseline target uid = report)
    (known : report.kind ≠ .unknown) :
    ∃ base other, baseline.bestModel? uid = some base ∧ target.bestModel? uid = some other ∧
      report.kind =
        orderChange base.family other.family (decide (threshold ≤ confidenceOf base other)) ∧
      report.confidence = some (confidenceOf base other) := by
  subst compared
  obtain ⟨base, other, begun, found, found', -, judged⟩ := models_of_reportOnModels known
  change compareOrder threshold baseline target uid = _ at judged
  rw [judged]
  exact ⟨base, other, found, found', rfl, rfl⟩

/-- Areas decide once both models have one over a range that they share. -/
theorem compareAreas_decided {noChange change : α} {report : ChangeReport α}
    (compared : compareAreas noChange change baseline target uid = report)
    (known : report.kind ≠ .unknown) :
    ∃ base other start stop, baseline.bestModel? uid = some base ∧
      target.bestModel? uid = some other ∧ sharedRange? base other = some (start, stop) ∧
      (base.integral start stop == 0.0) = false ∧
      Scalar.isFinite (base.integral start stop) = true ∧
      Scalar.isFinite (other.integral start stop) = true ∧
      report.kind = areaChange noChange change
        ((other.integral start stop - base.integral start stop) /
          Scalar.abs (base.integral start stop)) ∧
      report.rate = some ((other.integral start stop - base.integral start stop) /
        Scalar.abs (base.integral start stop)) := by
  subst compared
  obtain ⟨base, other, begun, found, found', unknown, judged⟩ := models_of_reportOnModels known
  change compareAreas noChange change baseline target uid = _ at judged
  rw [judged] at known ⊢
  dsimp only at known ⊢
  split at known
  · exact absurd unknown known
  · rename_i start stop shared
    split at known
    · exact absurd unknown known
    · rename_i regular
      rw [if_neg regular]
      simp only [Bool.or_eq_true, Bool.not_eq_true', not_or, Bool.not_eq_true,
        Bool.not_eq_false] at regular
      exact ⟨base, other, start, stop, found, found', shared, regular.1.1, regular.1.2, regular.2,
        rfl, rfl⟩

/-- Curves decide once their difference can be sampled. -/
theorem compareCurves_decided [Tally α] {name : MethodName} {threshold : α}
    {shape : CurveDifference α → String} {report : ChangeReport α}
    (compared : compareCurves name threshold shape baseline target uid = report)
    (known : report.kind ≠ .unknown) :
    ∃ base other difference, baseline.bestModel? uid = some base ∧
      target.bestModel? uid = some other ∧
      CurveDifference.sample? base other = some difference ∧
      report.kind = difference.change threshold ∧ report.rate = some difference.relative := by
  subst compared
  obtain ⟨base, other, begun, found, found', unknown, judged⟩ := models_of_reportOnModels known
  change compareCurves name threshold shape baseline target uid = _ at judged
  rw [judged] at known ⊢
  dsimp only at known ⊢
  split at known
  · exact absurd unknown known
  · rename_i difference sampled
    exact ⟨base, other, difference, found, found', sampled, rfl, rfl⟩

end Method

end ProfileDrift
