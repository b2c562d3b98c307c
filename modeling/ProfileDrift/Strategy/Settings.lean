import ProfileDrift.Strategy.Rule

namespace ProfileDrift

structure Settings (α : Type) where
  mode : ApplyMode
  rules : List (Rule α)

namespace Settings

variable {α : Type}

def blank : Settings α := ⟨.all, []⟩

variable [Scalar α]

/-- The settings that are used when none are given: the order of models for
profiles that carry fitted ones, and mean amounts for every profile. -/
def default : Settings α :=
  { mode := .all
    rules := [
      { (Rule.always "best_model_order_equality" : Rule α) with
        postprocessor := some "regression_analysis"
        params := .ofList [("confidence_threshold", 0.9)] },
      { (Rule.always "average_amount_threshold" : Rule α) with
        params := .ofList [("degradation_threshold", 2.0), ("optimization_threshold", 0.5)] }] }

/-- Can every rule be built? If not, the first that cannot says why. -/
def validate (settings : Settings α) : Except SettingsError Unit :=
  settings.rules.forM fun rule => (rule.build).map fun _ => ()

def methods (settings : Settings α) (profile : Profile α) :
    Except SettingsError (List (Method α)) :=
  Rule.methods (Rule.select settings.rules settings.mode profile)

end Settings

end ProfileDrift
