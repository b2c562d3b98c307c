import ProfileDrift.Decimal.Notation
import ProfileDrift.Method.Compare
import ProfileDrift.Profile.Document
import ProfileDrift.Proofs.FitOutcome
import ProfileDrift.Proofs.KeyedGroups
import ProfileDrift.Scalar.Blocks

namespace ProfileDrift

theorem Profile.modelsOf_of_unfitted {α : Type} [Scalar α] {profile : Profile α} {uid : String}
    (unfitted : profile.storedModels? uid = none) :
    profile.modelsOf uid = Model.fitAll (profile.observations uid) := by
  rw [modelsOf, unfitted]
  rfl

namespace Document

variable {α : Type}

/-- Records made of models are complete, so all are kept, and each model is found again
under the group it was recorded for. -/
theorem labelled_modelRecords {models : Keyed (List (Model α))}
    (complete : ∀ uid group, (uid, group) ∈ models.entries → ∀ model ∈ group,
      model.coefficients.length = model.family.coefficientCount) :
    ((modelRecords models).filter (·.isComplete)).map (fun record => (record.uid, record.model)) =
      models.entries.flatMap fun (uid, group) => group.map (uid, ·) := by
  have kept : (modelRecords models).filter (·.isComplete) = modelRecords models := by
    refine List.filter_eq_self.mpr fun record member => ?_
    obtain ⟨⟨uid, group⟩, inside, recorded⟩ := List.mem_flatMap.mp member
    obtain ⟨model, present, rfl⟩ := List.mem_map.mp recorded
    exact beq_iff_eq.mpr (complete uid group inside model present)
  rw [kept, modelRecords, List.map_flatMap]
  congr 1
  funext ⟨uid, group⟩
  rw [List.map_map]
  rfl

variable [Scalar α]

/-- What the fitted document carries for a group is what can be fitted to the group. -/
theorem under_fittedModels (document : Document α) (uid : String) :
    Keyed.under uid ((document.withFittedModels.models.filter (·.isComplete)).map
      fun record => (record.uid, record.model)) =
        Model.fitAll (document.profile.observations uid) := by
  have complete : ∀ name group, (name, group) ∈ (document.observations.map Model.fitAll).entries →
      ∀ model ∈ group, model.coefficients.length = model.family.coefficientCount := by
    intro name group member model inside
    obtain ⟨⟨_, observations⟩, _, same⟩ := List.mem_map.mp member
    cases same
    exact Model.complete_of_mem_fitAll inside
  change Keyed.under uid (((modelRecords (document.observations.map Model.fitAll)).filter _).map _) =
    Model.fitAll ((document.observations.get? uid).getD [])
  rw [labelled_modelRecords complete, Keyed.under_flatMap_entries, Keyed.get?_map]
  cases document.observations.get? uid with
  | none => exact Model.fitAll_nil.symm
  | some observations => rfl

/-- A profile uses the models of the fitted document where there are any. Where there
are none, nothing could be fitted, so that fitting again finds nothing either. -/
theorem modelsOf_withFittedModels (document : Document α) (uid : String) :
    document.withFittedModels.profile.modelsOf uid =
      Model.fitAll (document.profile.observations uid) := by
  have stored : document.withFittedModels.profile.models.get? uid =
      if Model.fitAll (document.profile.observations uid) = [] then none
      else some (Model.fitAll (document.profile.observations uid)) := by
    rw [← under_fittedModels]
    exact Keyed.get?_group _ uid
  rw [Profile.modelsOf, Profile.storedModels?, stored]
  by_cases unfit : Model.fitAll (document.profile.observations uid) = []
  · rw [if_pos unfit]
    rfl
  · have kept : (!(Model.fitAll (document.profile.observations uid)).isEmpty) = true := by
      simpa using unfit
    rw [if_neg unfit, Option.filter_some, if_pos kept]
    rfl

theorem modelsOf_of_unfitted {document : Document α} (unfitted : document.models = [])
    (uid : String) :
    document.profile.modelsOf uid = Model.fitAll (document.profile.observations uid) := by
  have stored : document.profile.models.get? uid = none := by
    change (Keyed.group ((document.models.filter _).map _)).get? uid = none
    rw [unfitted]
    rfl
  refine Profile.modelsOf_of_unfitted ?_
  rw [Profile.storedModels?, stored]
  rfl

end Document

/-- All that a comparison reads of a profile about a group. -/
structure Profile.AlikeOn {α : Type} [Scalar α] [Tally α] (uid : String)
    (profile other : Profile α) : Prop where
  unit : profile.unit = other.unit
  average : Method.averageAmount? profile uid = Method.averageAmount? other uid
  bestModel : profile.bestModel? uid = other.bestModel? uid

theorem Profile.AlikeOn.refl {α : Type} [Scalar α] [Tally α] (uid : String) (profile : Profile α) :
    profile.AlikeOn uid profile :=
  ⟨rfl, rfl, rfl⟩

theorem Document.alikeOn_withFittedModels {α : Type} [Scalar α] [Tally α]
    {document : Document α} (unfitted : document.models = []) (uid : String) :
    document.withFittedModels.profile.AlikeOn uid document.profile := by
  refine ⟨rfl, rfl, ?_⟩
  rw [Profile.bestModel?, Profile.bestModel?, modelsOf_withFittedModels,
    modelsOf_of_unfitted unfitted]

namespace Method

variable {α : Type} [Scalar α] [Tally α] [Hundredths α]

theorem compare_congr {baseline other target another : Profile α} {uid : String}
    (baselines : baseline.AlikeOn uid other) (targets : target.AlikeOn uid another)
    (method : Method α) :
    method.compare baseline target uid = method.compare other another uid := by
  have report : ∀ name subtype judge,
      reportOnModels name subtype baseline target uid judge =
        reportOnModels name subtype other another uid judge := by
    intro name subtype judge
    rw [reportOnModels, reportOnModels, baselines.bestModel, targets.bestModel]
  cases method with
  | averageAmount degradation optimization =>
    simp only [compare, compareAverages, baselines.average, targets.average, targets.unit]
  | modelOrder confidence =>
    unfold compare compareOrder
    exact report _ _ _
  | fastCheck change =>
    unfold compare compareCurves
    exact report _ _ _
  | integral noChange change =>
    unfold compare compareAreas
    exact report _ _ _
  | linearRegression change =>
    unfold compare compareCurves
    exact report _ _ _

/-- Comparing profiles on models fitted beforehand gives the same report as fitting them
for the comparison, whichever of the two sides was fitted beforehand. -/
theorem compare_withFittedModels (method : Method α) {baseline target : Document α}
    (unfittedBaseline : baseline.models = []) (unfittedTarget : target.models = [])
    (uid : String) :
    method.compare baseline.withFittedModels.profile target.withFittedModels.profile uid =
        method.compare baseline.profile target.profile uid ∧
      method.compare baseline.withFittedModels.profile target.profile uid =
        method.compare baseline.profile target.profile uid ∧
      method.compare baseline.profile target.withFittedModels.profile uid =
        method.compare baseline.profile target.profile uid ∧
      baseline.withFittedModels.profile.bestModel? uid = baseline.profile.bestModel? uid ∧
      target.withFittedModels.profile.bestModel? uid = target.profile.bestModel? uid := by
  have baselines := Document.alikeOn_withFittedModels unfittedBaseline uid
  have targets := Document.alikeOn_withFittedModels unfittedTarget uid
  exact ⟨compare_congr baselines targets method, compare_congr baselines (.refl uid _) method,
    compare_congr (.refl uid _) targets method, baselines.bestModel, targets.bestModel⟩

open scoped Lanes

/-- Measurements of one growing group and of one for which no family can be fitted. -/
def measured (factor : Float) : Document Float where
  header := ⟨"time", "./bin", "", "large", .empty⟩
  collector := .plain "time"
  postprocessors := []
  resources := [⟨"grow", 1.0, factor⟩, ⟨"broken", 1.0, 1.0 / 0.0⟩, ⟨"grow", 2.0, factor + factor⟩]
  models := []

theorem compare_withFittedModels_measured :
    ((measured 1.0).models = [] ∧ (measured 3.0).models = []) ∧
      ∀ uid ∈ ["grow", "broken"], ∀ method : Method Float,
        method.compare (measured 1.0).withFittedModels.profile
            (measured 3.0).withFittedModels.profile uid =
          method.compare (measured 1.0).profile (measured 3.0).profile uid := by
  have unfitted : (measured 1.0).models = [] ∧ (measured 3.0).models = [] := ⟨rfl, rfl⟩
  exact ⟨unfitted, fun uid _ method =>
    (compare_withFittedModels method unfitted.1 unfitted.2 uid).1⟩

end Method

end ProfileDrift
