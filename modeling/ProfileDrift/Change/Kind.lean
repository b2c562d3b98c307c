namespace ProfileDrift

/-- What happened to the amounts of a resource group between two profiles. -/
inductive ChangeKind where
  | noChange
  | degradation
  | optimization
  | maybeDegradation
  | maybeOptimization
  | unknown
  deriving DecidableEq, Repr

namespace ChangeKind

/-- From the worst change to the best one, as summaries list them. -/
def all : List ChangeKind :=
  [degradation, maybeDegradation, noChange, unknown, maybeOptimization, optimization]

/-- The order in which counts by kind are written. -/
def written : List ChangeKind :=
  [noChange, degradation, optimization, maybeDegradation, maybeOptimization, unknown]

def name : ChangeKind → String
  | noChange => "NoChange"
  | degradation => "Degradation"
  | optimization => "Optimization"
  | maybeDegradation => "MaybeDegradation"
  | maybeOptimization => "MaybeOptimization"
  | unknown => "Unknown"

def ofName? (text : String) : Option ChangeKind := written.find? (·.name == text)

def label : ChangeKind → String
  | noChange => "No Change"
  | degradation => "Degradation"
  | optimization => "Optimization"
  | maybeDegradation => "Maybe Degradation"
  | maybeOptimization => "Maybe Optimization"
  | unknown => "Unknown"

def marker : ChangeKind → String
  | noChange => "➖"
  | degradation => "❌"
  | optimization => "✅"
  | maybeDegradation => "⚠️ "
  | maybeOptimization => "➕"
  | unknown => "❓"

def isDegradation : ChangeKind → Bool
  | degradation | maybeDegradation => true
  | _ => false

def isOptimization : ChangeKind → Bool
  | optimization | maybeOptimization => true
  | _ => false

/-- Nothing changed and nothing known is only worth a line to a reader who wants
every line. -/
def isShown (verbose : Bool) : ChangeKind → Bool
  | noChange | unknown => verbose
  | _ => true

end ChangeKind

end ProfileDrift
