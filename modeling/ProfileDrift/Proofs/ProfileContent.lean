import ProfileDrift.Profile.Codec
import ProfileDrift.Proofs.KeyedGroups
import ProfileDrift.Proofs.ValueText

namespace ProfileDrift

/-- A number as a document can tell it: nothing if it is not finite. -/
def written (value : Float) : Option Float := if value.isFinite then some value else none

def Observation.written (point : Observation Float) : Observation (Option Float) :=
  ⟨ProfileDrift.written point.x, ProfileDrift.written point.y⟩

def Model.written (model : Model Float) : Model (Option Float) :=
  ⟨model.family, model.coefficients.map ProfileDrift.written, ProfileDrift.written model.rSquare,
    ProfileDrift.written model.xStart, ProfileDrift.written model.xEnd⟩

/-- The profiles agree in all that their documents tell. A group with nothing in it does
not show there, and of a number that is not finite it does not show which one it is. -/
structure Profile.SameContent (profile other : Profile Float) : Prop where
  configuration : profile.configuration = other.configuration
  resourceType : profile.resourceType = other.resourceType
  unit : profile.unit = other.unit
  observations : ∀ uid, (profile.observations uid).map Observation.written =
    (other.observations uid).map Observation.written
  models : ∀ uid, (profile.storedModels? uid).map (·.map Model.written) =
    (other.storedModels? uid).map (·.map Model.written)

theorem map_eq_map_of_imp {ι κ ρ : Type} {shown : ι → κ} {told : ι → ρ} {items others : List ι}
    (tells : ∀ item ∈ items, ∀ other, shown item = shown other → told item = told other)
    (same : items.map shown = others.map shown) : items.map told = others.map told := by
  induction items generalizing others with
  | nil =>
    obtain rfl := List.map_eq_nil_iff.mp same.symm
    rfl
  | cons item items ih =>
    obtain ⟨other, others, rfl⟩ := List.exists_cons_of_ne_nil
      fun none => List.cons_ne_nil _ _ (same.trans (congrArg (List.map shown) none))
    obtain ⟨first, rest⟩ := List.cons.inj same
    rw [List.map_cons, List.map_cons, tells item (List.mem_cons_self ..) other first,
      ih (fun item member => tells item (List.mem_cons_of_mem _ member)) rest]

theorem eq_of_map_eq {ι κ : Type} {shown : ι → κ} {items others : List ι}
    (tells : ∀ item ∈ items, ∀ other, shown item = shown other → item = other)
    (same : items.map shown = others.map shown) : items = others := by
  rw [← List.map_id items, ← List.map_id others]
  exact map_eq_map_of_imp tells same

namespace Json.Value

theorem plains_eq_map (items : List Value) : plains items = items.map plain := by
  induction items with
  | nil => rfl
  | cons item items ih => rw [plains, ih, List.map_cons]

theorem plainMembers_append (members others : List (String × Value)) :
    plainMembers (members ++ others) = plainMembers members ++ plainMembers others := by
  induction members with
  | nil => rfl
  | cons member members ih =>
    rw [List.cons_append, plainMembers, plainMembers, ih, List.cons_append]

theorem allBounded_map {ι : Type} {shown : ι → Value} (bounded : ∀ item, (shown item).Bounded)
    (items : List ι) : AllBounded (items.map shown) := by
  induction items with
  | nil => exact trivial
  | cons item items ih => exact ⟨bounded item, ih⟩

theorem membersBounded_append {members others : List (String × Value)}
    (bounded : MembersBounded members) (bounded' : MembersBounded others) :
    MembersBounded (members ++ others) := by
  induction members with
  | nil => exact bounded'
  | cons member members ih => exact ⟨bounded.1, ih bounded.2⟩

theorem plain_quantity (value : Float) :
    (quantity value).plain =
      match written value with
      | some finite => quantity finite
      | none => null := by
  unfold written
  by_cases finite : value.isFinite = true
  · rw [if_pos finite]
    exact if_pos finite
  · rw [if_neg finite]
    exact if_neg finite

theorem written_eq_of_plain {value other : Float}
    (same : (quantity value).plain = (quantity other).plain) : written value = written other := by
  rw [plain_quantity, plain_quantity] at same
  rcases first : written value with _ | finite <;>
    rcases second : written other with _ | another <;> rw [first, second] at same
  · cases same
  · cases same
  · cases same
    rfl

theorem plainMembers_texts (entries : List (String × String)) :
    plainMembers (entries.map fun entry => (entry.1, text entry.2)) =
      entries.map fun entry => (entry.1, text entry.2) := by
  induction entries with
  | nil => rfl
  | cons entry entries ih =>
    rw [List.map_cons, plainMembers, ih]
    rfl

theorem membersBounded_texts (entries : List (String × String)) :
    MembersBounded (entries.map fun entry => (entry.1, text entry.2)) := by
  induction entries with
  | nil => exact trivial
  | cons entry entries ih => exact ⟨trivial, ih⟩

end Json.Value

def ResourceRecord.written (record : ResourceRecord Float) : ResourceRecord (Option Float) :=
  ⟨record.uid, ProfileDrift.written record.size, ProfileDrift.written record.amount⟩

def ModelRecord.written (record : ModelRecord Float) : ModelRecord (Option Float) :=
  .ofModel record.uid record.model.written

theorem Family.name_injective : Function.Injective Family.name := by
  intro family other
  cases family <;> cases other <;> decide

namespace Document

open Json (Value)

theorem header_bounded (header : Header) : (headerToJson header).Bounded :=
  ⟨trivial, trivial, trivial, trivial, Value.membersBounded_texts header.units.entries, trivial⟩

theorem header_eq_of_plain {header other : Header}
    (same : (headerToJson header).plain = (headerToJson other).plain) : header = other := by
  simp only [headerToJson, mapToJson, Value.plain, Value.plainMembers, Value.object.injEq,
    List.cons.injEq, Prod.mk.injEq, true_and, and_true, Value.text.injEq] at same
  obtain ⟨resourceType, command, arguments, workload, units⟩ := same
  have entries : header.units.entries = other.units.entries := by
    refine List.map_injective_iff.mpr ?_ ((Value.plainMembers_texts _).symm.trans
      (units.trans (Value.plainMembers_texts _)))
    rintro ⟨name, unit⟩ ⟨_, _⟩ ⟨⟩
    rfl
  obtain ⟨_, _, _, _, ⟨_, _⟩⟩ := header
  obtain ⟨_, _, _, _, ⟨_, _⟩⟩ := other
  dsimp only at *
  subst_vars
  rfl

theorem name_eq_of_plain {name other : String}
    (same : (stepToJson (.plain name)).plain = (stepToJson (.plain other)).plain) :
    name = other := by
  cases same
  rfl

theorem resource_written_of_plain {record other : ResourceRecord Float}
    (same : (resourceToJson record).plain = (resourceToJson other).plain) :
    record.written = other.written := by
  simp only [resourceToJson, Value.plain, Value.plainMembers, Value.object.injEq,
    List.cons.injEq, Prod.mk.injEq, true_and, and_true, Value.text.injEq] at same
  obtain ⟨uid, size, amount⟩ := same
  rw [ResourceRecord.written, ResourceRecord.written, uid, Value.written_eq_of_plain size,
    Value.written_eq_of_plain amount]

theorem model_written_of_plain {record other : ModelRecord Float}
    (same : (modelToJson record).plain = (modelToJson other).plain) :
    record.written = other.written := by
  simp only [modelToJson, Value.plain, Value.plainMembers, Value.object.injEq,
    List.cons.injEq, Prod.mk.injEq, true_and, and_true, Value.text.injEq, Value.array.injEq,
    Value.plains_eq_map, List.map_map] at same
  obtain ⟨uid, family, coefficients, rSquare, xStart, xEnd⟩ := same
  have numbers := map_eq_map_of_imp (fun _ _ _ => Value.written_eq_of_plain) coefficients
  simp only [ModelRecord.written, ModelRecord.ofModel, Model.written, ModelRecord.model, uid,
    Family.name_injective family, numbers, Value.written_eq_of_plain rSquare,
    Value.written_eq_of_plain xStart, Value.written_eq_of_plain xEnd]

/-- The member under which the models stand, absent when there are none. -/
theorem models_written_of_plain {records others : List (ModelRecord Float)}
    (same : Value.plainMembers (if records.isEmpty then []
        else [("models", .array (records.map modelToJson))]) =
      Value.plainMembers (if others.isEmpty then []
        else [("models", .array (others.map modelToJson))])) :
    records.map ModelRecord.written = others.map ModelRecord.written := by
  rcases records with _ | ⟨record, records⟩ <;> rcases others with _ | ⟨other, others⟩
  · rfl
  · cases same
  · cases same
  · have items := Value.array.inj (Prod.mk.inj (List.cons.inj same).1).2
    rw [Value.plains_eq_map, Value.plains_eq_map, List.map_map, List.map_map] at items
    exact map_eq_map_of_imp (fun _ _ _ => model_written_of_plain) items

/-- Every number that a profile puts into its document is a measured quantity. -/
theorem ofProfile_bounded (profile : Profile Float) : (ofProfile profile).toJson.Bounded := by
  have number (value : Float) : (Value.quantity value).Bounded := trivial
  have resource (record : ResourceRecord Float) : (resourceToJson record).Bounded :=
    ⟨trivial, number _, number _, trivial⟩
  have model (record : ModelRecord Float) : (modelToJson record).Bounded :=
    ⟨trivial, trivial, Value.allBounded_map number record.coefficients, number _, number _,
      number _, trivial⟩
  have plainStep (name : String) : (stepToJson (.plain name)).Bounded := ⟨trivial, trivial⟩
  have models (records : List (ModelRecord Float)) :
      Value.MembersBounded (if records.isEmpty then []
        else [("models", .array (records.map modelToJson))]) := by
    split
    · exact trivial
    · exact ⟨Value.allBounded_map model records, trivial⟩
  have steps : Value.AllBounded ((ofProfile profile).postprocessors.map stepToJson) := by
    change Value.AllBounded ((profile.configuration.postprocessors.map Step.plain).map stepToJson)
    rw [List.map_map]
    exact Value.allBounded_map plainStep _
  exact Value.membersBounded_append ⟨header_bounded _, plainStep _, steps,
    Value.allBounded_map resource _, trivial⟩ (models _)

theorem unit_ofProfile (profile : Profile Float) :
    (ofProfile profile).profile.unit = profile.unit := by
  obtain ⟨_, resourceType, unit, _, _⟩ := profile
  cases unit with
  | none => rfl
  | some unit =>
    change (Keyed.empty.alter resourceType fun _ => unit).get? resourceType = some unit
    rw [Keyed.get?_alter, if_pos rfl]

theorem under_resourceRecords (resources : Keyed (List (Observation Float))) (uid : String) :
    Keyed.under uid (((resourceRecords resources).map ResourceRecord.written).map
      fun record => (record.uid, record.observation)) =
        ((resources.get? uid).getD []).map Observation.written := by
  rw [← Keyed.under_flatMap_mapped, resourceRecords, List.map_flatMap, List.map_flatMap]
  simp only [List.map_map]
  rfl

theorem under_modelRecords (models : Keyed (List (Model Float))) (uid : String) :
    Keyed.under uid (((modelRecords models).map ModelRecord.written).map
      fun record => (record.uid, record.model)) =
        ((models.get? uid).getD []).map Model.written := by
  rw [← Keyed.under_flatMap_mapped, modelRecords, List.map_flatMap, List.map_flatMap]
  simp only [List.map_map]
  rfl

theorem written_storedModels? (profile : Profile Float) (uid : String) :
    (profile.storedModels? uid).map (·.map Model.written) =
      (some (((profile.models.get? uid).getD []).map Model.written)).filter
        fun models => !models.isEmpty := by
  rw [Profile.storedModels?]
  rcases profile.models.get? uid with _ | _ | ⟨model, models⟩ <;> rfl

/-- Profiles whose documents read the same have the same content. -/
theorem sameContent_of_plain {profile other : Profile Float}
    (same : (ofProfile profile).toJson.plain = (ofProfile other).toJson.plain) :
    profile.SameContent other := by
  have members := Value.object.inj same
  rw [Value.plainMembers_append, Value.plainMembers_append] at members
  obtain ⟨fixed, models⟩ := List.append_inj members rfl
  simp only [Value.plainMembers, List.cons.injEq, Prod.mk.injEq, true_and, and_true] at fixed
  obtain ⟨header, collector, postprocessors, resources⟩ := fixed
  have headers := header_eq_of_plain header
  have names : profile.configuration.postprocessors = other.configuration.postprocessors := by
    have items := Value.array.inj postprocessors
    simp only [Value.plains_eq_map, ofProfile, List.map_map] at items
    exact (List.map_injective_iff.mpr fun _ _ => name_eq_of_plain) items
  have points : (resourceRecords profile.resources).map ResourceRecord.written =
      (resourceRecords other.resources).map ResourceRecord.written := by
    have items := Value.array.inj resources
    simp only [Value.plains_eq_map, List.map_map] at items
    exact map_eq_map_of_imp (fun _ _ _ => resource_written_of_plain) items
  have curves := models_written_of_plain models
  refine
    { configuration := ?_
      resourceType := congrArg (·.resourceType) headers
      unit := ?_
      observations := fun uid => ?_
      models := fun uid => ?_ }
  · exact (Configuration.mk.injEq ..).mpr ⟨name_eq_of_plain collector,
      congrArg (·.command) headers, congrArg (·.arguments) headers,
      congrArg (·.workload) headers, names⟩
  · rw [← unit_ofProfile profile, ← unit_ofProfile other]
    exact congrArg (fun header => header.units.get? header.resourceType) headers
  · exact (under_resourceRecords profile.resources uid).symm.trans
      (points ▸ under_resourceRecords other.resources uid)
  · have group : ((profile.models.get? uid).getD []).map Model.written =
        ((other.models.get? uid).getD []).map Model.written :=
      (under_modelRecords profile.models uid).symm.trans
        (curves ▸ under_modelRecords other.models uid)
    rw [written_storedModels?, written_storedModels?, group]

end Document

theorem eq_of_written_eq {value other : Float} (finite : value.isFinite = true)
    (same : written value = written other) : value = other := by
  unfold written at same
  rw [if_pos finite] at same
  split at same
  · exact Option.some.inj same
  · cases same

def Observation.IsFinite (point : Observation Float) : Prop :=
  point.x.isFinite = true ∧ point.y.isFinite = true

structure Model.IsFinite (model : Model Float) : Prop where
  coefficients : ∀ value ∈ model.coefficients, value.isFinite = true
  rSquare : model.rSquare.isFinite = true
  xStart : model.xStart.isFinite = true
  xEnd : model.xEnd.isFinite = true

theorem Observation.eq_of_written_eq {point other : Observation Float} (finite : point.IsFinite)
    (same : point.written = other.written) : point = other := by
  obtain ⟨x, y⟩ := Observation.mk.inj same
  exact (Observation.mk.injEq ..).mpr
    ⟨ProfileDrift.eq_of_written_eq finite.1 x, ProfileDrift.eq_of_written_eq finite.2 y⟩

theorem Model.eq_of_written_eq {model other : Model Float} (finite : model.IsFinite)
    (same : model.written = other.written) : model = other := by
  obtain ⟨family, coefficients, rSquare, xStart, xEnd⟩ := Model.mk.inj same
  have numbers := eq_of_map_eq
    (fun value member _ => ProfileDrift.eq_of_written_eq (finite.coefficients value member))
    coefficients
  exact (Model.mk.injEq ..).mpr ⟨family, numbers,
    ProfileDrift.eq_of_written_eq finite.rSquare rSquare,
    ProfileDrift.eq_of_written_eq finite.xStart xStart,
    ProfileDrift.eq_of_written_eq finite.xEnd xEnd⟩

/-- Every number that the profile holds is finite. -/
structure Profile.IsFinite (profile : Profile Float) : Prop where
  observations : ∀ uid, ∀ point ∈ profile.observations uid, point.IsFinite
  models : ∀ uid, ∀ model ∈ (profile.storedModels? uid).getD [], model.IsFinite

/-- Every group of the profile has something in it. -/
structure Profile.IsFilled (profile : Profile Float) : Prop where
  resources : ∀ uid, profile.resources.get? uid ≠ some []
  models : ∀ uid, profile.models.get? uid ≠ some []

theorem eq_of_getD_eq {ι : Type} {group other : Option (List ι)} (filled : group ≠ some [])
    (filled' : other ≠ some []) (same : group.getD [] = other.getD []) : group = other := by
  rcases group with _ | items <;> rcases other with _ | others
  · rfl
  · exact absurd (congrArg some same.symm) filled'
  · exact absurd (congrArg some same) filled
  · exact congrArg some same

theorem Profile.getD_storedModels? (profile : Profile Float) (uid : String) :
    (profile.storedModels? uid).getD [] = (profile.models.get? uid).getD [] := by
  rw [storedModels?]
  rcases profile.models.get? uid with _ | _ | ⟨model, models⟩ <;> rfl

/-- Nothing is lost of a profile with finite numbers and without empty groups. -/
theorem Profile.SameContent.eq {profile other : Profile Float} (same : profile.SameContent other)
    (finite : profile.IsFinite) (filled : profile.IsFilled) (filled' : other.IsFilled) :
    profile = other := by
  have resources : profile.resources = other.resources := by
    refine Keyed.ext_get? fun uid => eq_of_getD_eq (filled.resources uid) (filled'.resources uid) ?_
    exact eq_of_map_eq (fun point member _ =>
      Observation.eq_of_written_eq (finite.observations uid point member)) (same.observations uid)
  have models : profile.models = other.models := by
    refine Keyed.ext_get? fun uid => eq_of_getD_eq (filled.models uid) (filled'.models uid) ?_
    rw [← getD_storedModels?, ← getD_storedModels?]
    refine eq_of_map_eq (fun model member _ =>
      Model.eq_of_written_eq (finite.models uid model member)) ?_
    have shown (models : Option (List (Model Float))) :
        (models.map (·.map Model.written)).getD [] = (models.getD []).map Model.written :=
      Option.getD_map (·.map Model.written) [] models
    rw [← shown, ← shown, same.models]
  exact (Profile.mk.injEq ..).mpr
    ⟨same.configuration, same.resourceType, same.unit, resources, models⟩

end ProfileDrift
