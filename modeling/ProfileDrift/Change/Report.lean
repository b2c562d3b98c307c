import ProfileDrift.Change.Kind
import ProfileDrift.Scalar

namespace ProfileDrift

/-- What one method found out about one resource group of two profiles. -/
structure ChangeReport (α : Type) where
  method : String
  kind : ChangeKind
  /-- What was measured, such as a ratio or the order of models. -/
  subtype : String
  location : String
  baselineValue : String
  targetValue : String
  /-- How well the models behind the report explain what they were fitted to. -/
  confidence : Option α
  confidenceType : Option String
  /-- How large the change is, for methods that measure it. -/
  rate : Option α

namespace ChangeReport

variable {α : Type}

def undetermined (method subtype location : String) : ChangeReport α :=
  ⟨method, .unknown, subtype, location, "", "", none, none, none⟩

def withValues (report : ChangeReport α) (baseline target : String) : ChangeReport α :=
  { report with baselineValue := baseline, targetValue := target }

/-- The confidence that comes from coefficients of determination. -/
def withRSquare (report : ChangeReport α) (confidence : α) : ChangeReport α :=
  { report with confidence := some confidence, confidenceType := some "r_square" }

def withRate (report : ChangeReport α) (rate : α) : ChangeReport α :=
  { report with rate := some rate }

/-- One line with everything the report says. The rate comes before the
confidence, which is left out when it has no name. -/
def line [Hundredths α] (report : ChangeReport α) : String :=
  "  " ++ report.kind.marker ++ " " ++ report.kind.label ++ " at " ++ report.location ++ ": " ++
    report.baselineValue ++ " -> " ++ report.targetValue ++ " (" ++ report.subtype ++
    (match report.rate with
      | some rate => ", rate " ++ Hundredths.hundredths rate
      | none => "") ++
    (match report.confidenceType, report.confidence with
      | some name, some confidence => ", " ++ name ++ " " ++ Hundredths.hundredths confidence
      | _, _ => "") ++
    ") [" ++ report.method ++ "]\n"

def render [Hundredths α] (verbose : Bool) (reports : List (ChangeReport α)) : String :=
  String.join ((reports.filter (·.kind.isShown verbose)).map line)

end ChangeReport

end ProfileDrift
