import ProfileDrift.Method.Compare
import ProfileDrift.Strategy.Settings

namespace ProfileDrift.Settings

variable {α : Type} [Scalar α] [Tally α] [Hundredths α]

/-- Compares every group that both profiles have by every method that applies to
the target, method by method and the groups of each in ascending order. -/
def checkPair (settings : Settings α) (baseline target : Profile α) :
    Except SettingsError (List (ChangeReport α)) :=
  match settings.methods target with
  | .ok methods =>
    let uids := baseline.commonUids target
    .ok (methods.flatMap fun method => uids.map (method.compare baseline target))
  | .error error => .error error

end ProfileDrift.Settings
