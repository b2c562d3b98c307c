import ProfileDrift.Change.Codec
import ProfileDrift.Check.Pair
import ProfileDrift.CommandLine.Arguments
import ProfileDrift.Profile.Codec
import ProfileDrift.Strategy.Codec

namespace ProfileDrift

open Json (Value)

structure Files where
  content? : String → Option String
  isWritable : String → Bool

structure Outcome where
  exitCode : Nat
  output : String
  complaint : Option String
  /-- A file and its new content, if one is written. -/
  written : Option (String × String)
  deriving DecidableEq, Repr

namespace Outcome

def success (output : String) : Outcome := ⟨0, output, none, none⟩

/-- A command that fails writes nothing but its complaint. -/
def failure (complaint : String) : Outcome := ⟨1, "", some complaint, none⟩

def misuse : Outcome := ⟨2, "", none, none⟩

end Outcome

namespace Command

/-- The settings in a file, or the usual ones if none is named. -/
def settingsFrom (files : Files) : Option String → Except String (Settings Float)
  | none => .ok .default
  | some path =>
    match files.content? path with
    | none => .error s!"Failed to read degradation config: {path}"
    | some text =>
      match Settings.ofText text with
      | .ok settings => .ok settings
      | .error _ => .error s!"Invalid degradation config: {path}"

def documentFrom [Json.NumberReader] (files : Files) (path : String) : Except String (Document Float) :=
  match files.content? path with
  | none => .error s!"Failed to read profile: {path}"
  | some text =>
    match Document.ofText text with
    | .ok document => .ok document
    | .error _ => .error s!"Failed to parse profile: {path}"

/-- A comparison as JSON holds every report, whatever the verbosity. -/
def comparisonJson (target : Profile Float) (reports : List (ChangeReport Float)) : Value :=
  .object [
    ("configuration", target.configuration.toJson),
    ("summary", (ChangeSummary.ofReports reports).toJson),
    ("reports", .array (reports.map (·.toJson)))]

/-- A comparison as text holds the reports that are shown and counts them all. -/
def comparisonText (target : Profile Float) (reports : List (ChangeReport Float))
    (verbose : Bool) : String :=
  target.configuration.display ++ "\n" ++ ChangeReport.render verbose reports ++
    "Summary: " ++ (ChangeSummary.ofReports reports).display ++ "\n"

/-- Compares two profiles. Settings are read before the baseline and the baseline
before the target; the first thing that goes wrong is the one complained about. -/
def compared [Json.NumberReader] [Tally Float] (files : Files) (baseline target : String)
    (settings : Option String) (format : OutputFormat) (verbose : Bool) : Except String String := do
  let settings ← settingsFrom files settings
  let baseline := (← documentFrom files baseline).profile
  let target := (← documentFrom files target).profile
  if baseline.configuration ≠ target.configuration then
    throw ("Profiles are not comparable: '" ++ baseline.configuration.display ++ "' vs '" ++
      target.configuration.display ++ "'")
  let reports ← (settings.checkPair baseline target).mapError SettingsError.message
  match format with
  | .json => return (comparisonJson target reports).pretty ++ "\n"
  | .text => return comparisonText target reports verbose

def fitted [Json.NumberReader] (files : Files) (profile : String) : Except String String := do
  return (← documentFrom files profile).withFittedModels.toJson.pretty

/-- What a command leaves behind, given the files there are. -/
def outcome [Json.NumberReader] [Tally Float] (files : Files) : Command → Outcome
  | .diff baseline target settings format verbose =>
    match compared files baseline target settings format verbose with
    | .ok text => .success text
    | .error complaint => .failure complaint
  | .fit profile output =>
    match fitted files profile, output with
    | .error complaint, _ => .failure complaint
    | .ok text, none => .success (text ++ "\n")
    | .ok text, some path =>
      if files.isWritable path then ⟨0, "", none, some (path, text)⟩
      else .failure s!"Failed to write profile: {path}"

def inputs : Command → List String
  | .diff baseline target settings _ _ => settings.toList ++ [baseline, target]
  | .fit profile _ => [profile]

end Command

namespace Request

def versionText : String := "perfdelta 0.3.0\n"

def helpText : String :=
  "Usage: perfdelta [--debug] diff <BASELINE> <TARGET> [-c <FILE>] [--format text|json] [-v]\n" ++
    "       perfdelta [--debug] fit <PROFILE> [-o <FILE>]\n"

def outcome [Json.NumberReader] [Tally Float] (files : Files) : Request → Outcome
  | .run command => command.outcome files
  | .help => .success helpText
  | .version => .success versionText
  | .misuse => .misuse

end Request

end ProfileDrift
