import ProfileDrift.Change.Report

namespace ProfileDrift

structure ChangeSummary where
  count : ChangeKind → Nat

namespace ChangeSummary

def ofReports {α : Type} (reports : List (ChangeReport α)) : ChangeSummary where
  count kind := reports.countP (·.kind = kind)

def degradations (summary : ChangeSummary) : Nat :=
  summary.count .degradation + summary.count .maybeDegradation

def optimizations (summary : ChangeSummary) : Nat :=
  summary.count .optimization + summary.count .maybeOptimization

def total (summary : ChangeSummary) : Nat := (ChangeKind.all.map summary.count).foldr (· + ·) 0

def present (summary : ChangeSummary) (kinds : List ChangeKind) : List (ChangeKind × Nat) :=
  (kinds.map fun kind => (kind, summary.count kind)).filter fun (_, count) => 0 < count

/-- The kinds that occur in one line, the worst first. -/
def display (summary : ChangeSummary) : String :=
  match summary.present ChangeKind.all with
  | [] => "no changes checked"
  | counted => ", ".intercalate (counted.map fun (kind, count) => s!"{count} {kind.label}")

end ChangeSummary

end ProfileDrift
