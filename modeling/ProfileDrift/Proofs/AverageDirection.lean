import ProfileDrift.Proofs.DecidedReport
import ProfileDrift.Proofs.DoubleRatio
import ProfileDrift.Proofs.SameSides
import ProfileDrift.Scalar.Blocks

namespace ProfileDrift.Method

variable {degradation optimization ratio : Float}

theorem ratio_of_degradation (above : 1.0 < degradation)
    (worse : ratioChange degradation optimization ratio = .degradation) : 1.0 < ratio := by
  unfold ratioChange at worse
  split at worse
  · rename_i reached
    exact Double.lt_le_trans above reached
  · split at worse <;> cases worse

theorem ratio_of_optimization (below : optimization < 1.0)
    (better : ratioChange degradation optimization ratio = .optimization) : ratio < 1.0 := by
  unfold ratioChange at better
  split at better
  · cases better
  · split at better
    · rename_i reached
      exact Double.le_lt_trans reached below
    · cases better

/-- A change of mean amounts is one away from zero if it is for the worse, and one towards zero
or beyond it if it is for the better: the ratio does not tell the signs of the means. So above
zero a degradation is a larger mean and an optimization a smaller one, and below zero it is the
other way round. -/
theorem compare_direction [Tally Float] {name : String} {params : Keyed Float}
    {method : Method Float} (built : build name params = .ok method) (byAmounts : method.name = .averageAmount)
    (baseline target : Profile Float) (uid : String) :
    let kind := (method.compare baseline target uid).kind
    (kind = .degradation → ∃ before after, averageAmount? baseline uid = some before ∧
      averageAmount? target uid = some after ∧
      (0.0 < before ∧ before < after ∨ before < 0.0 ∧ after < before)) ∧
    (kind = .optimization → ∃ before after, averageAmount? baseline uid = some before ∧
      averageAmount? target uid = some after ∧
      (0.0 < before ∧ after < before ∨ before < 0.0 ∧ before < after)) := by
  intro kind
  cases method with
  | averageAmount degradation optimization =>
    obtain ⟨above, below⟩ := acceptsEqual_of_build built
    constructor
    · intro worse
      obtain ⟨before, after, found, found', nonzero, finite, finite', told, -⟩ :=
        compareAverages_decided rfl (show kind ≠ .unknown by rw [worse]; exact nofun)
      have more := ratio_of_degradation above (told.symm.trans worse)
      refine ⟨before, after, found, found', ?_⟩
      rcases Double.pos_or_neg (Double.not_isNaN_of_isFinite finite) nonzero with positive | negative
      · exact .inl ⟨positive, Double.lt_of_one_lt_div finite' positive finite more⟩
      · exact .inr ⟨negative, Double.lt_of_one_lt_div_neg finite' negative finite more⟩
    · intro better
      obtain ⟨before, after, found, found', nonzero, finite, finite', told, -⟩ :=
        compareAverages_decided rfl (show kind ≠ .unknown by rw [better]; exact nofun)
      have less := ratio_of_optimization below (told.symm.trans better)
      refine ⟨before, after, found, found', ?_⟩
      rcases Double.pos_or_neg (Double.not_isNaN_of_isFinite finite) nonzero with positive | negative
      · exact .inl ⟨positive, Double.lt_of_div_lt_one finite' positive finite less⟩
      · exact .inr ⟨negative, Double.lt_of_div_neg_lt_one finite' negative finite less⟩
  | _ => cases byAmounts

open scoped Lanes

/-- A profile of one amount. -/
def amounting (amount : Float) : Profile Float :=
  (Profile.blank ⟨"time", "./bin", "", "", []⟩ "time").withResource "main" [⟨1.0, amount⟩]

theorem compare_direction_measured :
    build "aat" .empty = .ok (averageAmount (2.0 : Float) 0.5) ∧
      ((averageAmount (2.0 : Float) 0.5).compare (amounting 2.0) (amounting 6.0) "main").kind =
        .degradation ∧
      ∃ before after, averageAmount? (amounting 2.0) "main" = some before ∧
        averageAmount? (amounting 6.0) "main" = some after ∧
        (0.0 < before ∧ before < after ∨ before < 0.0 ∧ after < before) := by
  have built : build "aat" .empty = .ok (averageAmount (2.0 : Float) 0.5) := rfl
  have worse : ((averageAmount (2.0 : Float) 0.5).compare (amounting 2.0) (amounting 6.0)
      "main").kind = .degradation := by decide +kernel
  exact ⟨built, worse, (compare_direction built rfl (amounting 2.0) (amounting 6.0) "main").1 worse⟩

/-- Three times less than nothing is three times as much, and so a degradation. -/
theorem degradation_to_smaller_mean :
    build "aat" .empty = .ok (averageAmount (2.0 : Float) 0.5) ∧
      ((averageAmount (2.0 : Float) 0.5).compare (amounting (-1.0)) (amounting (-3.0)) "main").kind =
        .degradation ∧
      ∃ before after, averageAmount? (amounting (-1.0)) "main" = some before ∧
        averageAmount? (amounting (-3.0)) "main" = some after ∧ after < before :=
  ⟨rfl, by decide +kernel, _, _, rfl, rfl, by decide +kernel⟩

end ProfileDrift.Method
