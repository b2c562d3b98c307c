import ProfileDrift.Model.Fit
import ProfileDrift.Proofs.Outcome

namespace ProfileDrift.Model

variable {α : Type} [Scalar α]

/-- The model of a family with given coefficients and what they explain of the
observations. -/
def ofCoefficients (family : Family) (observations : List (Observation α)) (coefficients : List α) :
    Model α :=
  let (xStart, xEnd) := sizeRange observations
  ⟨family, coefficients, explained ⟨family, coefficients, 0.0, xStart, xEnd⟩ observations, xStart,
    xEnd⟩

/-- The last checks of a fit, which are made on its result. -/
def checkFinite (model : Model α) : Except FitFailure (Model α) :=
  if model.coefficients.any (fun value => !Scalar.isFinite value) then
    .error (.nonFinite model.family)
  else if !Scalar.isFinite model.rSquare then .error (.nonFinite model.family)
  else .ok model

/-- A curve with a slope is the straight line of its linearised coordinates. -/
theorem bestCoefficients_of_sloped {family : Family} (sloped : family ≠ .constant)
    (observations : List (Observation α)) :
    bestCoefficients family observations =
      (regress family (observations.map (linearised family))).map
        fun (a, b) => delinearised family a b := by
  unfold bestCoefficients
  split
  · exact absurd rfl sloped
  · cases regress family (observations.map (linearised family)) <;> rfl

/-- The sums with the deviations of one more point. -/
def Deviations.with (uMean vMean : α) (sums : Deviations α) (point : α × α) : Deviations α :=
  { uu := sums.uu + (point.1 - uMean) * (point.1 - uMean)
    uv := sums.uv + (point.1 - uMean) * (point.2 - vMean)
    largest := Scalar.larger sums.largest (Scalar.abs (point.1 - uMean)) }

theorem deviations_eq (uMean vMean : α) (points : List (α × α)) :
    deviations uMean vMean points = points.foldl (.with uMean vMean) ⟨0.0, 0.0, 0.0⟩ := rfl

/-- The squares that a curve leaves over and those of the amounts about their mean, with
the squares at one more point. -/
def withSquares (model : Model α) (yMean : α) (squares : α × α) (point : Observation α) : α × α :=
  (squares.1 + (point.y - model.evaluate point.x) * (point.y - model.evaluate point.x),
    squares.2 + (point.y - yMean) * (point.y - yMean))

theorem explained_eq (model : Model α) (observations : List (Observation α)) :
    explained model observations =
      let squares := observations.foldl
        (withSquares model (Scalar.mean (observations.map (·.y)))) (0.0, 0.0)
      if squares.2 == 0.0 then 1.0 else 1.0 - squares.1 / squares.2 := rfl

/-- A fit is a chain of checks around the best coefficients, and the first that fails
decides. -/
theorem fit_eq (family : Family) (observations : List (Observation α)) :
    fit family observations =
      if observations.isEmpty then .error .empty
      else
        checkDomain family observations >>= fun _ =>
          (if family = .constant then .ok () else checkSpread family observations) >>= fun _ =>
            bestCoefficients family observations >>= fun coefficients =>
              checkFinite (ofCoefficients family observations coefficients) := by
  unfold fit
  cases observations.isEmpty with
  | true => rfl
  | false =>
    cases checkDomain family observations with
    | error failure => rfl
    | ok =>
      by_cases constant : family = .constant
      · subst constant
        rfl
      · rw [if_neg constant]
        cases checkSpread family observations with
        | error failure => exact if_pos constant
        | ok => exact if_pos constant

/-- The level of some observations is their mean amount, and only the last checks remain. -/
theorem fit_constant_eq {observations : List (Observation α)} (some : observations ≠ []) :
    fit .constant observations = checkFinite
      (ofCoefficients .constant observations [Scalar.mean (observations.map (·.y))]) := by
  rw [fit_eq, if_neg (by simpa using some)]
  rfl

/-- A model whose numbers are finite passes the last checks. -/
theorem checkFinite_eq_ok {model : Model α}
    (finite : ∀ value ∈ model.coefficients, Scalar.isFinite value = true)
    (definite : Scalar.isFinite model.rSquare = true) : checkFinite model = .ok model := by
  unfold checkFinite
  rw [if_neg (by simpa using finite), if_neg (by simpa using definite)]

/-- A fit succeeds only past every check, with the best coefficients of its family. -/
theorem fit_eq_ok {family : Family} {observations : List (Observation α)} {model : Model α}
    (fitted : fit family observations = .ok model) :
    observations ≠ [] ∧ checkDomain family observations = .ok () ∧
      (family ≠ .constant → checkSpread family observations = .ok ()) ∧
      ∃ coefficients, bestCoefficients family observations = .ok coefficients ∧
        (∀ value ∈ coefficients, Scalar.isFinite value = true) ∧
        Scalar.isFinite model.rSquare = true ∧
        model = ofCoefficients family observations coefficients := by
  rw [fit_eq] at fitted
  split at fitted
  · cases fitted
  · rename_i some
    obtain ⟨_, domain, fitted⟩ := bind_eq_ok fitted
    obtain ⟨_, spread, fitted⟩ := bind_eq_ok fitted
    obtain ⟨coefficients, best, fitted⟩ := bind_eq_ok fitted
    refine ⟨by simpa using some, domain, fun different => by rwa [if_neg different] at spread,
      coefficients, best, ?_⟩
    unfold checkFinite at fitted
    split at fitted
    · cases fitted
    · rename_i finite
      split at fitted
      · cases fitted
      · rename_i definite
        cases fitted
        exact ⟨by simpa [ofCoefficients] using finite, by simpa using definite, rfl⟩

theorem family_of_fit {family : Family} {observations : List (Observation α)} {model : Model α}
    (fitted : fit family observations = .ok model) : model.family = family := by
  obtain ⟨_, _, _, _, _, _, _, rfl⟩ := fit_eq_ok fitted
  rfl

theorem length_delinearised {family : Family} (sloped : family ≠ .constant) (a b : α) :
    (delinearised family a b).length = family.coefficientCount := by
  cases family with
  | constant => exact absurd rfl sloped
  | _ => rfl

theorem length_bestCoefficients {family : Family} {observations : List (Observation α)}
    {coefficients : List α} (best : bestCoefficients family observations = .ok coefficients) :
    coefficients.length = family.coefficientCount := by
  unfold bestCoefficients at best
  split at best
  · cases best
    rfl
  · rename_i sloped
    split at best
    · cases best
      exact length_delinearised sloped _ _
    · cases best

/-- Every model that is fitted carries as many coefficients as its family takes. -/
theorem complete_of_fit {family : Family} {observations : List (Observation α)} {model : Model α}
    (fitted : fit family observations = .ok model) :
    model.coefficients.length = model.family.coefficientCount := by
  obtain ⟨_, _, _, coefficients, best, _, _, rfl⟩ := fit_eq_ok fitted
  exact length_bestCoefficients best

section Spread

/-- Are all values equal, each to each and so to itself? -/
def alike {β : Type} [BEq β] (values : List β) : Bool :=
  values.all fun value => values.all (· == value)

theorem alike_iff {β : Type} [BEq β] {values : List β} :
    alike values = true ↔ ∀ value ∈ values, ∀ other ∈ values, (value == other) = true := by
  simp only [alike, List.all_eq_true]
  exact ⟨fun each value member other another => each other another value member,
    fun each value member other another => each other another value member⟩

/-- Whichever value the others are compared with, the answer is the same. -/
theorem all_beq_first {β : Type} [BEq β] [PartialEquivBEq β] (first : β) (rest : List β) :
    ((first :: rest).all (· == first)) = alike (first :: rest) := by
  rw [Bool.eq_iff_iff, alike_iff, List.all_eq_true]
  constructor
  · exact fun same value member other another =>
      PartialEquivBEq.trans (same value member) (PartialEquivBEq.symm (same other another))
  · exact fun same value member => same value member first (List.mem_cons_self ..)

/-- A spread is there unless sizes or amounts are all alike, and which of the observations
comes first does not matter. -/
theorem checkSpread_eq [PartialEquivBEq α] (family : Family) (observations : List (Observation α)) :
    checkSpread family observations =
      if observations.length < 2 ∨ alike (observations.map (·.x)) then .error (.degenerate family)
      else if alike (observations.map (·.y)) then .error (.flatData family)
      else .ok () := by
  match observations with
  | [] => rfl
  | first :: rest =>
    have sizes : (first :: rest).length < 2 ∨
        Scalar.distinctCount ((first :: rest).map (·.x)) < 2 ↔
          (first :: rest).length < 2 ∨ alike ((first :: rest).map (·.x)) = true := by
      rw [Scalar.distinctCount_lt_two_iff, List.length_map, or_self_left, alike_iff]
    have amounts : ((first :: rest).all fun point => point.y == first.y) =
        alike ((first :: rest).map (·.y)) := by
      rw [List.map_cons, ← all_beq_first, ← List.map_cons, List.all_map]
      rfl
    simp only [checkSpread, sizes, amounts]

end Spread

theorem fitAll_nil : fitAll ([] : List (Observation α)) = [] := rfl

/-- A family that is not tried could not be fitted. -/
theorem fitAll_eq (observations : List (Observation α)) :
    fitAll observations =
      Family.all.filterMap fun family => (fit family observations).toOption := by
  unfold fitAll
  refine List.filterMap_congr fun family _ => ?_
  rw [fit_eq]
  cases checkDomain family observations with
  | ok => rfl
  | error failure => cases observations.isEmpty <;> rfl

theorem fit_of_mem_fitAll {observations : List (Observation α)} {model : Model α}
    (member : model ∈ fitAll observations) : ∃ family, fit family observations = .ok model := by
  rw [fitAll_eq] at member
  obtain ⟨family, _, fitted⟩ := List.mem_filterMap.mp member
  cases outcome : fit family observations with
  | error failure => rw [outcome] at fitted; cases fitted
  | ok found =>
    rw [outcome] at fitted
    cases fitted
    exact ⟨family, outcome⟩

theorem complete_of_mem_fitAll {observations : List (Observation α)} {model : Model α}
    (member : model ∈ fitAll observations) :
    model.coefficients.length = model.family.coefficientCount := by
  obtain ⟨family, fitted⟩ := fit_of_mem_fitAll member
  exact complete_of_fit fitted

/-- Whatever the observations are, what is fitted to them has finite coefficients. -/
theorem finite_of_mem_fitAll {observations : List (Observation α)} {model : Model α}
    (member : model ∈ fitAll observations) :
    ∀ value ∈ model.coefficients, Scalar.isFinite value = true := by
  obtain ⟨family, fitted⟩ := fit_of_mem_fitAll member
  obtain ⟨_, _, _, coefficients, _, finite, _, rfl⟩ := fit_eq_ok fitted
  exact finite

end ProfileDrift.Model
