import ProfileDrift.Json.Value
import ProfileDrift.Profile.Basic

namespace ProfileDrift

/-- A named step of a measurement, a collector or a postprocessor, with whatever
parameters it was given. -/
structure Step where
  name : String
  params : Keyed Json.Value

structure Header where
  resourceType : String
  command : String
  arguments : String
  workload : String
  /-- The unit of amounts by type of resource. -/
  units : Keyed String

structure ResourceRecord (α : Type) where
  uid : String
  size : α
  amount : α

structure ModelRecord (α : Type) where
  uid : String
  family : Family
  coefficients : List α
  rSquare : α
  xStart : α
  xEnd : α

/-- A profile in the form in which it is stored: flat lists of records in any
order, of any uid, with models of any number of coefficients. -/
structure Document (α : Type) where
  header : Header
  collector : Step
  postprocessors : List Step
  resources : List (ResourceRecord α)
  models : List (ModelRecord α)

/-- The postprocessor that has fitted models to a profile. -/
def regressionAnalysis : String := "regression_analysis"

def Step.plain (name : String) : Step := ⟨name, .empty⟩

def ResourceRecord.observation {α : Type} (record : ResourceRecord α) : Observation α :=
  ⟨record.size, record.amount⟩

def ModelRecord.ofModel {α : Type} (uid : String) (model : Model α) : ModelRecord α :=
  ⟨uid, model.family, model.coefficients, model.rSquare, model.xStart, model.xEnd⟩

def ModelRecord.model {α : Type} (record : ModelRecord α) : Model α :=
  ⟨record.family, record.coefficients, record.rSquare, record.xStart, record.xEnd⟩

/-- Has the record as many coefficients as its family takes? -/
def ModelRecord.isComplete {α : Type} (record : ModelRecord α) : Bool :=
  record.coefficients.length == record.family.coefficientCount

namespace Document

variable {α : Type}

def configuration (document : Document α) : Configuration :=
  { collector := document.collector.name
    command := document.header.command
    arguments := document.header.arguments
    workload := document.header.workload
    postprocessors := document.postprocessors.map (·.name) }

/-- The observations of every resource group, each in the order of the document. -/
def observations (document : Document α) : Keyed (List (Observation α)) :=
  .group (document.resources.map fun record => (record.uid, record.observation))

/-- The models of every group, each in the order of the document. A record that
has not as many coefficients as its family takes is left out. -/
def storedModels (document : Document α) : Keyed (List (Model α)) :=
  .group ((document.models.filter (·.isComplete)).map fun record => (record.uid, record.model))

/-- The profile that a document describes. Its unit is the one given for its own
type of resource. -/
def profile (document : Document α) : Profile α :=
  { configuration := document.configuration
    resourceType := document.header.resourceType
    unit := document.header.units.get? document.header.resourceType
    resources := document.observations
    models := document.storedModels }

def modelRecords (models : Keyed (List (Model α))) : List (ModelRecord α) :=
  models.entries.flatMap fun (uid, group) => group.map (.ofModel uid)

def resourceRecords (resources : Keyed (List (Observation α))) : List (ResourceRecord α) :=
  resources.entries.flatMap fun (uid, group) => group.map fun point => ⟨uid, point.x, point.y⟩

/-- The document that describes a profile. It names no parameters, and of the
groups only those show that have something in them. -/
def ofProfile (profile : Profile α) : Document α :=
  { header :=
      { resourceType := profile.resourceType
        command := profile.configuration.command
        arguments := profile.configuration.arguments
        workload := profile.configuration.workload
        units :=
          match profile.unit with
          | some unit => Keyed.empty.insert profile.resourceType unit
          | none => .empty }
    collector := .plain profile.configuration.collector
    postprocessors := profile.configuration.postprocessors.map .plain
    resources := resourceRecords profile.resources
    models := modelRecords profile.models }

/-- The document with the models of every family that can be fitted to each of
its groups in place of those it had. Regression analysis is named among its
postprocessors from then on, once. -/
def withFittedModels [Scalar α] (document : Document α) : Document α :=
  { document with
    models := modelRecords (document.observations.map Model.fitAll)
    postprocessors :=
      if document.postprocessors.any (·.name == regressionAnalysis) then
        document.postprocessors
      else document.postprocessors ++ [.plain regressionAnalysis] }

/-- Fits a document, and tells how many models it holds from then on. -/
def attachFittedModels [Scalar α] (document : Document α) : Nat × Document α :=
  let fitted := document.withFittedModels
  (fitted.models.length, fitted)

end Document

end ProfileDrift
