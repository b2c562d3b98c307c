import ProfileDrift.Method.Basic
import ProfileDrift.Profile.Basic

namespace ProfileDrift

/-- How many of the rules that match a profile contribute their method. -/
inductive ApplyMode where
  | first
  | all
  deriving DecidableEq, Repr

namespace ApplyMode

def name : ApplyMode → String
  | first => "first"
  | all => "all"

def ofName? (text : String) : Option ApplyMode := [first, all].find? (·.name == text)

end ApplyMode

/-- A method and the profiles it is meant for. A condition that is absent holds
of every profile. -/
structure Rule (α : Type) where
  resourceType : Option String
  command : Option String
  collector : Option String
  workload : Option String
  /-- This must be among the postprocessors of the profile. -/
  postprocessor : Option String
  method : String
  params : Keyed α

namespace Rule

variable {α : Type}

/-- A method for every profile, with its usual parameters. -/
def always (method : String) : Rule α := ⟨none, none, none, none, none, method, .empty⟩

def isMatch (rule : Rule α) (profile : Profile α) : Bool :=
  rule.resourceType.all (· == profile.resourceType) &&
    rule.command.all (· == profile.configuration.command) &&
    rule.collector.all (· == profile.configuration.collector) &&
    rule.workload.all (· == profile.configuration.workload) &&
    rule.postprocessor.all profile.hasPostprocessor

/-- The rules that contribute to a profile, in their order. -/
def select (rules : List (Rule α)) (mode : ApplyMode) (profile : Profile α) : List (Rule α) :=
  let matching := rules.filter (·.isMatch profile)
  match mode with
  | .first => matching.take 1
  | .all => matching

variable [Scalar α]

def build (rule : Rule α) : Except SettingsError (Method α) := Method.build rule.method rule.params

/-- Adds a method unless one of its name is there already. -/
def addMethod (methods : List (Method α)) (method : Method α) : List (Method α) :=
  if methods.any (·.name = method.name) then methods else methods ++ [method]

/-- The methods of rules, each name once and with the parameters of the rule that
asked for it first. Every rule has to be buildable, also one whose method is
there already. -/
def methods (rules : List (Rule α)) : Except SettingsError (List (Method α)) :=
  rules.foldlM (fun methods rule => (rule.build).map (addMethod methods)) []

end Rule

end ProfileDrift
