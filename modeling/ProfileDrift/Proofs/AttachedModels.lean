import ProfileDrift.Proofs.GroupedRecords
import ProfileDrift.Proofs.RefusedData

namespace ProfileDrift

/-- What is written out of every group is written name by name, each with what stands
under it. -/
theorem Keyed.flatMap_entries {β γ : Type} (map : Keyed (List β))
    (write : String → List β → List γ) :
    (map.entries.flatMap fun (name, values) => write name values) =
      map.names.flatMap fun name => write name ((map.get? name).getD []) := by
  rw [names, List.flatMap_map]
  refine List.flatMap_congr fun entry member => ?_
  rw [get?_of_mem (show (entry.1, entry.2) ∈ map.entries from member)]
  rfl

/-- Fitted models stand in the order of families, and there is one for each family that can
be fitted. -/
theorem Model.families_fitAll {α : Type} [Scalar α] (observations : List (Observation α)) :
    (fitAll observations).map (·.family) =
      Family.all.filter fun family => (fit family observations).isOk := by
  rw [fitAll_eq, List.map_filterMap, ← List.filterMap_eq_filter]
  refine List.filterMap_congr fun family _ => ?_
  rw [Option.guard]
  cases fitted : fit family observations with
  | error failure => rfl
  | ok model => exact congrArg some (family_of_fit fitted)

namespace Document

variable {α : Type} [Scalar α]

/-- The models of a fitted document are those of its groups, one group after the other. -/
theorem models_withFittedModels_eq (document : Document α) :
    document.withFittedModels.models =
      document.observations.names.flatMap fun uid =>
        (Model.fitAll (document.profile.observations uid)).map (.ofModel uid) := by
  change ((document.observations.entries.map _).flatMap _) = _
  rw [List.flatMap_map]
  exact document.observations.flatMap_entries fun uid group =>
    (Model.fitAll group).map (ModelRecord.ofModel uid)

theorem postprocessors_withFittedModels (document : Document α) :
    document.withFittedModels.postprocessors =
      if ∃ step ∈ document.postprocessors, step.name = regressionAnalysis then
        document.postprocessors
      else document.postprocessors ++ [.plain regressionAnalysis] := by
  have named : document.postprocessors.any (·.name == regressionAnalysis) = true ↔
      ∃ step ∈ document.postprocessors, step.name = regressionAnalysis := by
    simp only [List.any_eq_true, beq_iff_eq]
  unfold withFittedModels
  simp only [named]

/-- Fitting a document replaces its models and nothing else. It then holds, for each uid
that its resources have and in the ascending order of these, every model that can be fitted,
in the order of families, each under that uid, and none of those that it held before.
Regression analysis is added behind the postprocessors unless one of them has that name. The
count is that of the models, and fitting once more finds the document as it is. -/
theorem attachFittedModels_exact (document : Document α) :
    let count := document.attachFittedModels.1
    let fitted := document.attachFittedModels.2
    let points := fun uid => (document.resources.filter (·.uid = uid)).map (·.observation)
    (fitted.header = document.header ∧ fitted.collector = document.collector ∧
      fitted.resources = document.resources) ∧
    (∃ uids : List String, uids.Pairwise (· < ·) ∧
      (∀ uid, uid ∈ uids ↔ ∃ record ∈ document.resources, record.uid = uid) ∧
      fitted.models = uids.flatMap (fun uid =>
        (Model.fitAll (points uid)).map (ModelRecord.ofModel uid)) ∧
      fitted.models.map (fun record => (record.uid, record.model)) = uids.flatMap fun uid =>
        (Model.fitAll (points uid)).map fun model => (uid, model)) ∧
    (∀ uid, ((Model.fitAll (points uid)).map (·.family) =
        Family.all.filter fun family => (Model.fit family (points uid)).isOk) ∧
      ∀ model, model ∈ Model.fitAll (points uid) ↔
        Model.fit model.family (points uid) = .ok model) ∧
    (fitted.postprocessors =
      if ∃ step ∈ document.postprocessors, step.name = regressionAnalysis then
        document.postprocessors
      else document.postprocessors ++ [⟨regressionAnalysis, .empty⟩]) ∧
    count = fitted.models.length ∧
    fitted.attachFittedModels = (count, fitted) := by
  intro count fitted points
  have grouped : fitted.models = document.observations.names.flatMap fun uid =>
      (Model.fitAll (points uid)).map (ModelRecord.ofModel uid) := by
    refine document.models_withFittedModels_eq.trans (List.flatMap_congr fun uid _ => ?_)
    rw [observations_profile]
  have again : fitted.withFittedModels = fitted := document.withFittedModels_withFittedModels
  have told : fitted.models.map (fun record => (record.uid, record.model)) =
      document.observations.names.flatMap fun uid =>
        (Model.fitAll (points uid)).map fun model => (uid, model) := by
    rw [grouped, List.map_flatMap]
    exact List.flatMap_congr fun uid _ => List.map_map
  refine ⟨⟨rfl, rfl, rfl⟩, ⟨document.observations.names, ?_, fun uid => ?_, grouped, told⟩,
    fun uid => ⟨Model.families_fitAll _, fun model => Model.mem_fitAll⟩,
    document.postprocessors_withFittedModels, rfl, ?_⟩
  · exact List.pairwise_map.mpr document.observations.ascending
  · exact mem_names_observations
  · exact congrArg (fun refitted => (refitted.models.length, refitted)) again

end Document

end ProfileDrift
