import ProfileDrift.Check.Version

namespace ProfileDrift.VersionCheck

variable {α : Type} [Hundredths α]

def renderCheck (verbose : Bool) (check : ProfileCheck α) : String :=
  let lines := ChangeReport.render verbose check.reports
  "\n" ++ check.configuration.display ++ " (baseline " ++ check.baselineVersion.short ++ ")\n" ++
    (if lines.isEmpty then "  no changes detected\n" else lines)

def renderNotes (notes : List NotComparable) : String :=
  if notes.isEmpty then ""
  else
    "\n⚠️  Not comparable (" ++ String.ofList (Nat.toDigits 10 notes.length) ++ "):\n" ++
      String.join (notes.map fun note =>
        "  " ++ note.configuration.display ++ " (" ++
          String.ofList (Nat.toDigits 10 note.visited) ++ " ancestors inspected)\n")

/-- The check of a version as a text: a section for each profile, the profiles
without a baseline, and a summary that counts hidden reports too. -/
def render (verbose : Bool) (check : VersionCheck α) : String :=
  "Version " ++ check.version.short ++ "\n" ++
    String.join (check.checks.map (renderCheck verbose)) ++
    renderNotes check.notComparable ++
    "\nSummary: " ++ check.summary.display ++ "\n"

end ProfileDrift.VersionCheck
