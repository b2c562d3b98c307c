import ProfileDrift.Change.Codec
import ProfileDrift.Check.Version
import ProfileDrift.Profile.Codec

namespace ProfileDrift

open Json (Value)

def ProfileCheck.toJson (check : ProfileCheck Float) : Value :=
  .object [
    ("configuration", check.configuration.toJson),
    ("target", .text check.target.text),
    ("baseline_version", .text check.baselineVersion.text),
    ("baseline", .text check.baseline.text),
    ("reports", .array (check.reports.map (·.toJson)))]

def NotComparable.toJson (note : NotComparable) : Value :=
  .object [
    ("configuration", note.configuration.toJson),
    ("target", .text note.target.text),
    ("visited", .count note.visited)]

def VersionCheck.toJson (check : VersionCheck Float) : Value :=
  .object [
    ("version", .text check.version.text),
    ("checks", .array (check.checks.map (·.toJson))),
    ("not_comparable", .array (check.notComparable.map (·.toJson)))]

end ProfileDrift
