import ProfileDrift.Keyed
import ProfileDrift.Method.Name
import ProfileDrift.Scalar

namespace ProfileDrift

/-- A way of comparing two profiles with the thresholds that it goes by. -/
inductive Method (α : Type) where
  | averageAmount (degradation optimization : α)
  /-- Compares the families of the best models; a change is certain only when the
  models explain enough. -/
  | modelOrder (confidence : α)
  /-- Compares the curves of the best models and names the shape of their difference. -/
  | fastCheck (change : α)
  | integral (noChange change : α)
  /-- Compares the curves of the best models and names the trend of their difference. -/
  | linearRegression (change : α)

namespace Method

variable {α : Type}

def name : Method α → MethodName
  | averageAmount .. => .averageAmount
  | modelOrder _ => .modelOrder
  | fastCheck _ => .fastCheck
  | integral .. => .integral
  | linearRegression _ => .linearRegression

variable [Scalar α]

/-- The change above which curves differ for certain, unless it is given. -/
def usualChange : α := 0.25

/-- Takes the confidence threshold, which lies within zero and one, parameter by
parameter. -/
def buildModelOrder (params : List (String × α)) : Except SettingsError (Method α) := do
  let confidence ← params.foldlM
    (fun _ (name, value) =>
      if name = "confidence_threshold" then
        if (0.0 : α) ≤ value ∧ value ≤ 1.0 then Except.ok value
        else .error (.invalidParameter .modelOrder name "must be within [0, 1]")
      else .error (.unknownParameter .modelOrder name))
    (0.9 : α)
  return modelOrder confidence

/-- Takes the ratios that count as changes. Nothing changed at the ratio one, so
it lies strictly between them. -/
def buildAverageAmount (params : List (String × α)) : Except SettingsError (Method α) := do
  let (degradation, optimization) ← params.foldlM
    (fun (degradation, optimization) (name, value) =>
      if name = "degradation_threshold" then .ok (value, optimization)
      else if name = "optimization_threshold" then .ok (degradation, value)
      else .error (.unknownParameter .averageAmount name))
    ((2.0 : α), (0.5 : α))
  if !((0.0 : α) < optimization ∧ optimization < 1.0) then
    throw (.invalidParameter .averageAmount "optimization_threshold" "must be within (0, 1)")
  if !((1.0 : α) < degradation ∧ Scalar.isFinite degradation) then
    throw (.invalidParameter .averageAmount "degradation_threshold" "must be greater than 1")
  return averageAmount degradation optimization

/-- Takes the relative areas up to which nothing changed and above which the
change is certain, in this order. -/
def buildIntegral (params : List (String × α)) : Except SettingsError (Method α) := do
  let (noChange, change) ← params.foldlM
    (fun (noChange, change) (name, value) =>
      if name = "no_change_threshold" then .ok (value, change)
      else if name = "change_threshold" then .ok (noChange, value)
      else .error (.unknownParameter .integral name))
    ((0.10 : α), (usualChange : α))
  if !((0.0 : α) ≤ noChange ∧ Scalar.isFinite noChange) then
    throw (.invalidParameter .integral "no_change_threshold" "must be non-negative")
  if !(noChange < change ∧ Scalar.isFinite change) then
    throw (.invalidParameter .integral "change_threshold"
      "must be greater than no_change_threshold")
  return integral noChange change

/-- Takes the mean relative difference above which a change of curves is certain. -/
def buildChange (method : MethodName) (params : List (String × α)) : Except SettingsError α := do
  let change ← params.foldlM
    (fun _ (name, value) =>
      if name = "change_threshold" then .ok value
      else .error (.unknownParameter method name))
    (usualChange : α)
  if !((0.0 : α) < change ∧ Scalar.isFinite change) then
    throw (.invalidParameter method "change_threshold" "must be positive")
  return change

/-- The method of a name with its parameters, the usual ones where none are given.
Parameters are taken in the order of their names. -/
def buildNamed (name : MethodName) (params : Keyed α) : Except SettingsError (Method α) :=
  match name with
  | .averageAmount => buildAverageAmount params.entries
  | .modelOrder => buildModelOrder params.entries
  | .fastCheck => (buildChange .fastCheck params.entries).map fastCheck
  | .integral => buildIntegral params.entries
  | .linearRegression => (buildChange .linearRegression params.entries).map linearRegression

def build (name : String) (params : Keyed α) : Except SettingsError (Method α) :=
  match MethodName.ofText? name with
  | some method => buildNamed method params
  | none => .error (.unknownMethod name)

end Method

end ProfileDrift
