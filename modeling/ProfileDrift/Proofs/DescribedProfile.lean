import ProfileDrift.Proofs.FittedDocument
import ProfileDrift.Proofs.ProfileContent

namespace ProfileDrift

namespace Keyed

variable {β : Type}

/-- There is no group without values. -/
theorem get?_group_ne_nil (entries : List (String × β)) (name : String) :
    (group entries).get? name ≠ some [] := by
  rw [get?_group]
  split
  · exact nofun
  · rename_i nonempty
    exact fun same => nonempty (Option.some.inj same)

/-- Groups that are written out one after the other are gathered again, unless one of them
has nothing to be written. -/
theorem group_flatMap_entries {map : Keyed (List β)} (filled : ∀ name, map.get? name ≠ some []) :
    group (map.entries.flatMap fun (name, values) => values.map (name, ·)) = map := by
  refine ext_get? fun name => ?_
  rw [get?_group, under_flatMap_entries]
  have present := filled name
  revert present
  rcases map.get? name with _ | _ | ⟨value, values⟩
  · exact fun _ => rfl
  · exact fun absent => absurd rfl absent
  · exact fun _ => rfl

end Keyed

/-- Every model of the profile has as many coefficients as its family takes. -/
def Profile.IsComplete {α : Type} (profile : Profile α) : Prop :=
  ∀ uid models, profile.models.get? uid = some models → ∀ model ∈ models,
    model.coefficients.length = model.family.coefficientCount

namespace Document

theorem observations_ofProfile {profile : Profile Float} (filled : profile.IsFilled) :
    (ofProfile profile).observations = profile.resources := by
  have labelled : (ofProfile profile).resources.map (fun record => (record.uid, record.observation)) =
      profile.resources.entries.flatMap fun (uid, points) => points.map (uid, ·) := by
    change (resourceRecords profile.resources).map _ = _
    rw [resourceRecords, List.map_flatMap]
    simp only [List.map_map]
    rfl
  rw [observations, labelled, Keyed.group_flatMap_entries filled.resources]

theorem storedModels_ofProfile {profile : Profile Float} (filled : profile.IsFilled)
    (complete : profile.IsComplete) : (ofProfile profile).storedModels = profile.models := by
  have recorded : ∀ uid group, (uid, group) ∈ profile.models.entries → ∀ model ∈ group,
      model.coefficients.length = model.family.coefficientCount := by
    intro uid group member
    exact complete uid group (Keyed.get?_of_mem member)
  change Keyed.group (((modelRecords profile.models).filter (·.isComplete)).map _) = _
  rw [labelled_modelRecords recorded, Keyed.group_flatMap_entries filled.models]

/-- What a document describes has no group with nothing in it, and no model that lacks a
coefficient. -/
theorem isFilled_profile (document : Document Float) : document.profile.IsFilled where
  resources uid := Keyed.get?_group_ne_nil _ uid
  models uid := Keyed.get?_group_ne_nil _ uid

theorem isComplete_profile (document : Document Float) : document.profile.IsComplete := by
  intro uid models present model member
  change document.storedModels.get? uid = some models at present
  rw [storedModels, Keyed.get?_group] at present
  split at present
  · cases present
  · cases present
    obtain ⟨entry, inside, rfl⟩ := List.mem_map.mp member
    obtain ⟨record, kept, rfl⟩ := List.mem_map.mp (List.mem_filter.mp inside).1
    exact beq_iff_eq.mp (List.mem_filter.mp kept).2

/-- A profile is described by the document that is made of it if every group has something
in it and every model has the coefficients of its family, and only then. The profile that
any document describes is such a profile, so it is found again however its document is
written. -/
theorem profile_ofProfile :
    (∀ document : Document Float, (ofProfile document.profile).profile = document.profile) ∧
      ∀ profile : Profile Float,
        (ofProfile profile).profile = profile ↔ profile.IsFilled ∧ profile.IsComplete := by
  have found : ∀ profile : Profile Float, profile.IsFilled → profile.IsComplete →
      (ofProfile profile).profile = profile := by
    intro profile filled complete
    have configuration : (ofProfile profile).configuration = profile.configuration := by
      have names : (profile.configuration.postprocessors.map Step.plain).map (·.name) =
          profile.configuration.postprocessors := by
        rw [List.map_map]
        exact List.map_id _
      exact (Configuration.mk.injEq ..).mpr ⟨rfl, rfl, rfl, rfl, names⟩
    exact (Profile.mk.injEq ..).mpr ⟨configuration, rfl, unit_ofProfile profile,
      observations_ofProfile filled, storedModels_ofProfile filled complete⟩
  refine ⟨fun document => found _ (isFilled_profile document) (isComplete_profile document),
    fun profile => ⟨fun same => ?_, fun ⟨filled, complete⟩ => found profile filled complete⟩⟩
  rw [← same]
  exact ⟨isFilled_profile _, isComplete_profile _⟩

end Document

end ProfileDrift
