import ProfileDrift.Keyed
import ProfileDrift.Model.Fit
import ProfileDrift.Model.Selection
import ProfileDrift.Profile.Configuration

namespace ProfileDrift

/-- One measurement run: what was measured, the amounts of every resource group
and the models that were fitted to them, both by the identifier of the group. -/
structure Profile (α : Type) where
  configuration : Configuration
  resourceType : String
  unit : Option String
  resources : Keyed (List (Observation α))
  models : Keyed (List (Model α))

namespace Profile

variable {α : Type}

def blank (configuration : Configuration) (resourceType : String) : Profile α :=
  ⟨configuration, resourceType, none, .empty, .empty⟩

def withUnit (profile : Profile α) (unit : String) : Profile α :=
  { profile with unit := some unit }

/-- Appends observations to a group, which exists from then on. -/
def withResource (profile : Profile α) (uid : String) (observations : List (Observation α)) :
    Profile α :=
  { profile with resources := profile.resources.append uid observations }

/-- Appends models to a group, which exists from then on. -/
def withModels (profile : Profile α) (uid : String) (models : List (Model α)) : Profile α :=
  { profile with models := profile.models.append uid models }

def observations (profile : Profile α) (uid : String) : List (Observation α) :=
  (profile.resources.get? uid).getD []

/-- The models that the profile carries for a group, if it carries any. -/
def storedModels? (profile : Profile α) (uid : String) : Option (List (Model α)) :=
  (profile.models.get? uid).filter (fun models => !models.isEmpty)

/-- The groups that both profiles have measured, in ascending order. -/
def commonUids (profile other : Profile α) : List String :=
  profile.resources.names.filter other.resources.contains

def hasPostprocessor (profile : Profile α) (name : String) : Bool :=
  profile.configuration.postprocessors.contains name

variable [Scalar α]

/-- The models of a group: those that the profile carries, fitted ones otherwise. -/
def modelsOf (profile : Profile α) (uid : String) : List (Model α) :=
  (profile.storedModels? uid).getD (Model.fitAll (profile.observations uid))

/-- The model that describes a group best, if any can be found. -/
def bestModel? (profile : Profile α) (uid : String) : Option (Model α) :=
  Model.selectBest? (profile.modelsOf uid)

end Profile

end ProfileDrift
