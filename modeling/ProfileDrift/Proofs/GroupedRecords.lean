import ProfileDrift.Proofs.DescribedProfile
import ProfileDrift.Proofs.RefittedDocument

namespace ProfileDrift

namespace Keyed

variable {β γ : Type}

/-- Values that are recorded under names, found again under one of them. -/
theorem under_map (records : List γ) (label : γ → String) (content : γ → β) (name : String) :
    under name (records.map fun record => (label record, content record)) =
      (records.filter (label · = name)).map content := by
  rw [under, List.filter_map, List.map_map]
  rfl

theorem getD_get?_group (entries : List (String × β)) (name : String) :
    ((group entries).get? name).getD [] = under name entries := by
  rw [get?_group]
  split
  · rename_i none
    exact none.symm
  · rfl

theorem mem_names_group {entries : List (String × β)} {name : String} :
    name ∈ (group entries).names ↔ ∃ entry ∈ entries, entry.1 = name := by
  have absent : under name entries = [] ↔ ¬∃ entry ∈ entries, entry.1 = name := by
    rw [under, List.map_eq_nil_iff, List.filter_eq_nil_iff]
    simp only [decide_eq_true_eq, not_exists, not_and]
  rw [← contains_iff, contains, get?_group]
  by_cases empty : under name entries = []
  · rw [if_pos empty]
    exact iff_of_false Bool.false_ne_true (absent.mp empty)
  · rw [if_neg empty]
    exact iff_of_true rfl (not_not.mp (mt absent.mpr empty))

/-- One more value at the end of the entries goes to the end of its group. -/
theorem group_concat (entries : List (String × β)) (name : String) (value : β) :
    group (entries ++ [(name, value)]) = (group entries).append name [value] := by
  refine ext_get? fun other => ?_
  have last : under other [(name, value)] = if other = name then [value] else [] :=
    under_labelled other name [value]
  rw [append, get?_alter, getD_get?_group, get?_group, get?_group, under_append, last]
  by_cases here : other = name
  · subst here
    rw [if_pos rfl, if_pos rfl, if_neg (List.concat_ne_nil value _)]
  · rw [if_neg here, if_neg here, List.append_nil]

end Keyed

namespace Document

variable {α : Type}

/-- A resource that is recorded last goes to the end of its group. -/
theorem profile_concat_resource (document : Document α) (record : ResourceRecord α) :
    { document with resources := document.resources ++ [record] }.profile =
      document.profile.withResource record.uid [record.observation] := by
  have grown : { document with resources := document.resources ++ [record] }.observations =
      document.observations.append record.uid [record.observation] := by
    unfold observations
    rw [List.map_append]
    exact Keyed.group_concat _ record.uid record.observation
  exact (Profile.mk.injEq ..).mpr ⟨rfl, rfl, rfl, grown, rfl⟩

/-- So does a model, unless it lacks a coefficient or has one too many. -/
theorem profile_concat_model (document : Document α) (record : ModelRecord α) :
    { document with models := document.models ++ [record] }.profile =
      if record.isComplete then document.profile.withModels record.uid [record.model]
      else document.profile := by
  by_cases complete : record.isComplete = true
  · have grown : { document with models := document.models ++ [record] }.storedModels =
        document.storedModels.append record.uid [record.model] := by
      unfold storedModels
      rw [List.filter_append, List.filter_singleton, complete, List.map_append]
      exact Keyed.group_concat _ record.uid record.model
    rw [if_pos complete]
    exact (Profile.mk.injEq ..).mpr ⟨rfl, rfl, rfl, rfl, grown⟩
  · have kept : { document with models := document.models ++ [record] }.storedModels =
        document.storedModels := by
      unfold storedModels
      rw [List.filter_append, List.filter_singleton, Bool.eq_false_of_not_eq_true complete]
      exact congrArg _ (congrArg _ (List.append_nil _))
    rw [if_neg complete]
    exact (Profile.mk.injEq ..).mpr ⟨rfl, rfl, rfl, rfl, kept⟩

/-- The profile of a document arises record by record, from the first one on. -/
theorem profile_eq_foldl (document : Document α) :
    document.profile =
      document.models.foldl
        (fun profile record =>
          if record.isComplete then profile.withModels record.uid [record.model] else profile)
        (document.resources.foldl
          (fun profile record => profile.withResource record.uid [record.observation])
          { document with resources := [], models := [] }.profile) := by
  obtain ⟨header, collector, postprocessors, resources, models⟩ := document
  induction models using List.reverseRecOn with
  | nil =>
    induction resources using List.reverseRecOn with
    | nil => rfl
    | append_singleton resources record ih =>
      rw [List.foldl_concat]
      exact (profile_concat_resource ⟨header, collector, postprocessors, resources, []⟩ record).trans
        (congrArg (·.withResource record.uid [record.observation]) ih)
  | append_singleton models record ih =>
    rw [List.foldl_concat, ← ih]
    exact profile_concat_model ⟨header, collector, postprocessors, resources, models⟩ record

theorem observations_profile (document : Document α) (uid : String) :
    document.profile.observations uid =
      (document.resources.filter (·.uid = uid)).map (·.observation) :=
  (Keyed.getD_get?_group _ uid).trans (Keyed.under_map ..)

theorem mem_names_observations {document : Document α} {uid : String} :
    uid ∈ document.observations.names ↔ ∃ record ∈ document.resources, record.uid = uid := by
  rw [observations, Keyed.mem_names_group]
  simp only [List.mem_map, exists_exists_and_eq_and]

theorem models_profile (document : Document α) (uid : String) :
    (document.profile.models.get? uid).getD [] =
      (document.models.filter fun record => record.uid = uid ∧ record.isComplete).map
        (·.model) := by
  refine (Keyed.getD_get?_group _ uid).trans ?_
  rw [Keyed.under_map, List.filter_filter]
  simp only [Bool.decide_and, Bool.decide_eq_true]

variable [Scalar α]

/-- Every model of a fitted document is complete, so that none is left out. -/
theorem models_withFittedModels (document : Document α) (uid : String) :
    (document.withFittedModels.models.filter (·.uid = uid)).map (·.model) =
      Model.fitAll (document.profile.observations uid) := by
  have complete : document.withFittedModels.models.filter (·.isComplete) =
      document.withFittedModels.models := by
    refine List.filter_eq_self.mpr fun record member => ?_
    obtain ⟨_, _, fitted⟩ := fitted_of_mem_withFittedModels member
    exact beq_iff_eq.mpr (Model.complete_of_mem_fitAll fitted)
  rw [← under_fittedModels, complete, Keyed.under_map]

/-- The profile of a document groups its records and neither loses nor reorders any that it
keeps. A group has the observations that the document records for it in the order of the
document, and there are no other groups. A group has those of its models that have as many
coefficients as their family takes, in the order of the document again. There is no group
with nothing in it. What is fitted to a document is fitted to the same groups. -/
theorem profile_groups (document : Document α) :
    (∀ uid, document.profile.observations uid =
        (document.resources.filter (·.uid = uid)).map fun record =>
          ⟨record.size, record.amount⟩) ∧
      (∀ uid, uid ∈ document.profile.resources.names ↔
        ∃ record ∈ document.resources, record.uid = uid) ∧
      (∀ uid, (document.profile.models.get? uid).getD [] =
        (document.models.filter fun record => record.uid = uid ∧
            record.coefficients.length = record.family.coefficientCount).map fun record =>
          ⟨record.family, record.coefficients, record.rSquare, record.xStart, record.xEnd⟩) ∧
      (∀ uid, document.profile.resources.get? uid ≠ some [] ∧
        document.profile.models.get? uid ≠ some []) ∧
      ∀ uid, (document.withFittedModels.models.filter (·.uid = uid)).map (·.model) =
        Model.fitAll (document.profile.observations uid) := by
  refine ⟨observations_profile document, fun _ => mem_names_observations, fun uid => ?_,
    fun uid => ⟨Keyed.get?_group_ne_nil _ uid, Keyed.get?_group_ne_nil _ uid⟩,
    models_withFittedModels document⟩
  have found := models_profile document uid
  simp only [ModelRecord.isComplete, beq_iff_eq] at found
  exact found

end Document

end ProfileDrift
