import ProfileDrift.Proofs.ExactMean
import ProfileDrift.Proofs.FittedDocument

namespace ProfileDrift

open Exact (real)

namespace Model

theorem deviations_perm (uMean vMean : Exact) {points others : List (Exact × Exact)}
    (reordered : points.Perm others) :
    deviations uMean vMean points = deviations uMean vMean others := by
  rw [deviations_eq, deviations_eq]
  refine reordered.foldl_eq' (fun point _ other _ sums => ?_) _
  rw [Deviations.with, Deviations.with, Deviations.with, Deviations.with,
    Exact.add_right_comm sums.uu, Exact.add_right_comm sums.uv,
    Exact.larger_right_comm sums.largest]

theorem regress_perm (family : Family) {points others : List (Exact × Exact)}
    (reordered : points.Perm others) : regress family points = regress family others := by
  have sizes := Exact.mean_perm (reordered.map (·.1))
  have amounts := Exact.mean_perm (reordered.map (·.2))
  unfold regress
  rw [sizes, amounts, reordered.length_eq]
  simp only [deviations_perm _ _ reordered]

variable {observations others : List (Observation Exact)}

theorem alike_perm {values others : List Exact} (reordered : values.Perm others) :
    alike values = alike others := by
  simp only [alike, reordered.all_eq]

theorem checkSpread_perm (family : Family) (reordered : observations.Perm others) :
    checkSpread family observations = checkSpread family others := by
  rw [checkSpread_eq, checkSpread_eq, reordered.length_eq, alike_perm (reordered.map (·.x)),
    alike_perm (reordered.map (·.y))]

theorem checkDomain_perm (family : Family) (reordered : observations.Perm others) :
    checkDomain family observations = checkDomain family others := by
  simp only [checkDomain, reordered.any_eq]

theorem bestCoefficients_perm (family : Family) (reordered : observations.Perm others) :
    bestCoefficients family observations = bestCoefficients family others := by
  by_cases constant : family = .constant
  · subst constant
    exact congrArg (fun level => Except.ok [level]) (Exact.mean_perm (reordered.map (·.y)))
  · rw [bestCoefficients_of_sloped constant, bestCoefficients_of_sloped constant,
      regress_perm family (reordered.map (linearised family))]

theorem sizeRange_perm (reordered : observations.Perm others) :
    sizeRange observations = sizeRange others := by
  refine reordered.foldl_eq' (fun point _ other _ (low, high) => ?_) _
  exact Prod.ext (Exact.smaller_right_comm ..) (Exact.larger_right_comm ..)

theorem explained_perm (model : Model Exact) (reordered : observations.Perm others) :
    explained model observations = explained model others := by
  have squares (yMean : Exact) : observations.foldl (withSquares model yMean) (0.0, 0.0) =
      others.foldl (withSquares model yMean) (0.0, 0.0) := by
    refine reordered.foldl_eq' (fun point _ other _ squares => ?_) _
    rw [withSquares, withSquares, withSquares, withSquares, Exact.add_right_comm squares.1,
      Exact.add_right_comm squares.2]
  rw [explained_eq, explained_eq, Exact.mean_perm (reordered.map (·.y)), squares]

theorem ofCoefficients_perm (family : Family) (reordered : observations.Perm others)
    (coefficients : List Exact) :
    ofCoefficients family observations coefficients = ofCoefficients family others coefficients := by
  simp only [ofCoefficients, sizeRange_perm reordered, explained_perm _ reordered]

/-- A fit does not depend on the order of the observations, in success and in failure. -/
theorem fit_perm (family : Family) (reordered : observations.Perm others) :
    fit family observations = fit family others := by
  have missing : observations.isEmpty = others.isEmpty := reordered.isEmpty_eq
  rw [fit_eq, fit_eq, missing, checkDomain_perm family reordered,
    checkSpread_perm family reordered, bestCoefficients_perm family reordered]
  simp only [ofCoefficients_perm family reordered]

theorem fitAll_perm (reordered : observations.Perm others) :
    fitAll observations = fitAll others := by
  simp only [fitAll_eq, fit_perm _ reordered]

end Model

namespace Profile

/-- The profile with other observations of a group. -/
def withObservations {α : Type} (profile : Profile α) (uid : String)
    (observations : List (Observation α)) : Profile α :=
  { profile with resources := profile.resources.insert uid observations }

theorem observations_withObservations {α : Type} (profile : Profile α) (uid : String)
    (observations : List (Observation α)) :
    (profile.withObservations uid observations).observations uid = observations := by
  change ((profile.resources.alter uid _).get? uid).getD [] = observations
  rw [Keyed.get?_alter, if_pos rfl]
  rfl

/-- A group without models of its own is read through sums and extremes of its observations,
which do not depend on their order. -/
theorem alikeOn_withObservations {profile : Profile Exact} {uid : String}
    {observations : List (Observation Exact)} (unfitted : profile.storedModels? uid = none)
    (reordered : observations.Perm (profile.observations uid)) :
    (profile.withObservations uid observations).AlikeOn uid profile := by
  have unfitted' : (profile.withObservations uid observations).storedModels? uid = none := unfitted
  refine ⟨rfl, ?_, ?_⟩
  · rw [Method.averageAmount?_eq, Method.averageAmount?_eq, observations_withObservations,
      reordered.isEmpty_eq, Exact.mean_perm (reordered.map (·.y))]
  · rw [bestModel?, bestModel?, modelsOf_of_unfitted unfitted, modelsOf_of_unfitted unfitted',
      observations_withObservations, Model.fitAll_perm reordered]

end Profile

namespace Method

/-- What a method finds out does not depend on the order in which amounts were recorded.
Recording the observations of the group in another order, on either side or on both, gives
the same report, the shown mean amounts included. -/
theorem compare_reordered [Hundredths Exact] (method : Method Exact)
    {baseline target : Profile Exact} {uid : String} {recorded recorded' : List (Observation Exact)}
    (unfitted : baseline.storedModels? uid = none) (unfitted' : target.storedModels? uid = none)
    (reordered : recorded.Perm (baseline.observations uid))
    (reordered' : recorded'.Perm (target.observations uid)) :
    method.compare (baseline.withObservations uid recorded) target uid =
        method.compare baseline target uid ∧
      method.compare baseline (target.withObservations uid recorded') uid =
        method.compare baseline target uid ∧
      method.compare (baseline.withObservations uid recorded)
          (target.withObservations uid recorded') uid =
        method.compare baseline target uid := by
  have baselines := Profile.alikeOn_withObservations unfitted reordered
  have targets := Profile.alikeOn_withObservations unfitted' reordered'
  exact ⟨compare_congr baselines (.refl uid _) method, compare_congr (.refl uid _) targets method,
    compare_congr baselines targets method⟩

/-- A profile with one group, recorded in this order. -/
noncomputable def recordedAs (points : List (ℝ × ℝ)) : Profile Exact :=
  (Profile.blank ⟨"time", "./bin", "", "", []⟩ "time").withResource "main"
    (points.map fun (x, y) => ⟨real x, real y⟩)

/-- Squares and a line, whose first observations are recorded last. -/
theorem compare_reordered_squares :
    (recordedAs [(1, 1), (2, 4), (3, 9)]).storedModels? "main" = none ∧
      (recordedAs [(1, 2), (2, 3)]).storedModels? "main" = none ∧
      (integral 0.10 usualChange).compare
          ((recordedAs [(1, 1), (2, 4), (3, 9)]).withObservations "main"
            [⟨real 2, real 4⟩, ⟨real 3, real 9⟩, ⟨real 1, real 1⟩])
          ((recordedAs [(1, 2), (2, 3)]).withObservations "main"
            [⟨real 2, real 3⟩, ⟨real 1, real 2⟩]) "main" =
        (integral 0.10 usualChange).compare (recordedAs [(1, 1), (2, 4), (3, 9)])
          (recordedAs [(1, 2), (2, 3)]) "main" := by
  have unfitted (points : List (ℝ × ℝ)) : (recordedAs points).storedModels? "main" = none := rfl
  have squares : [⟨real 2, real 4⟩, ⟨real 3, real 9⟩, ⟨real 1, real 1⟩].Perm
      ((recordedAs [(1, 1), (2, 4), (3, 9)]).observations "main") :=
    List.perm_append_singleton (⟨real 1, real 1⟩ : Observation Exact)
      [⟨real 2, real 4⟩, ⟨real 3, real 9⟩]
  have line : [⟨real 2, real 3⟩, ⟨real 1, real 2⟩].Perm
      ((recordedAs [(1, 2), (2, 3)]).observations "main") := .swap ..
  exact ⟨unfitted _, unfitted _,
    (compare_reordered _ (unfitted _) (unfitted _) squares line).2.2⟩

end Method

end ProfileDrift
