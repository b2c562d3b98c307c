import ProfileDrift.Baseline.Search
import ProfileDrift.Change.Summary
import ProfileDrift.Check.Pair

namespace ProfileDrift

inductive CheckError where
  | settings (error : SettingsError)
  | store (error : StoreError)
  | workerPanicked (version : VersionId)
  deriving DecidableEq, Repr

def CheckError.message : CheckError → String
  | settings error => "Configuration error: " ++ error.message
  | store error => "Store error: " ++ error.message
  | workerPanicked version => s!"Check worker for version {version.text} panicked"

/-- A profile of the checked version with what was found out against its baseline. -/
structure ProfileCheck (α : Type) where
  configuration : Configuration
  target : ProfileRef
  baselineVersion : VersionId
  baseline : ProfileRef
  reports : List (ChangeReport α)

/-- A profile of the checked version that has no baseline. -/
structure NotComparable where
  configuration : Configuration
  target : ProfileRef
  /-- How many ancestors were inspected in vain. -/
  visited : Nat
  deriving DecidableEq, Repr

inductive Verdict (α : Type) where
  | checked (check : ProfileCheck α)
  | notComparable (note : NotComparable)

namespace Verdict

variable {α : Type}

def check? : Verdict α → Option (ProfileCheck α)
  | checked check => some check
  | notComparable _ => none

def note? : Verdict α → Option NotComparable
  | checked _ => none
  | notComparable note => some note

end Verdict

structure VersionCheck (α : Type) where
  version : VersionId
  checks : List (ProfileCheck α)
  notComparable : List NotComparable

namespace VersionCheck

variable {α : Type}

/-- Verdicts sorted into checks and notes, each in the order of the verdicts. -/
def ofVerdicts (version : VersionId) (verdicts : List (Verdict α)) : VersionCheck α :=
  ⟨version, verdicts.filterMap Verdict.check?, verdicts.filterMap Verdict.note?⟩

def reports (check : VersionCheck α) : List (ChangeReport α) := check.checks.flatMap (·.reports)

def summary (check : VersionCheck α) : ChangeSummary := .ofReports check.reports

end VersionCheck

namespace Settings

variable {α : Type} [Scalar α] [Tally α] [Hundredths α]

/-- Checks one profile of a version against its nearest comparable ancestor. -/
def checkProfile (settings : Settings α) (history : History) (store : Store α)
    (version : VersionId) (reference : ProfileRef) (target : Profile α) :
    Reading α CheckError (Verdict α) := do
  let configuration := target.configuration
  let pairing ← Reading.mapError CheckError.store
    (Baseline.find configuration history store version)
  match pairing with
  | .notFound visited => return .notComparable ⟨configuration, reference, visited⟩
  | .found baselineVersion baseline profile _ =>
    let reports ← Reading.mapError CheckError.settings
      (Reading.ofExcept (settings.checkPair profile target))
    return .checked ⟨configuration, reference, baselineVersion, baseline, reports⟩

def checkProfiles (settings : Settings α) (history : History) (store : Store α)
    (version : VersionId) :
    List (ProfileRef × Profile α) → Reading α CheckError (List (Verdict α))
  | [] => pure []
  | (reference, target) :: rest => do
    let verdict ← settings.checkProfile history store version reference target
    let verdicts ← settings.checkProfiles history store version rest
    return verdict :: verdicts

/-- Checks every profile of a version, in the order of its listing. -/
def checkVersion (settings : Settings α) (history : History) (store : Store α)
    (version : VersionId) : Reading α CheckError (VersionCheck α) := do
  let targets ← Reading.mapError CheckError.store (Cache.profilesOf store version)
  let verdicts ← settings.checkProfiles history store version targets
  return .ofVerdicts version verdicts

end Settings

end ProfileDrift
