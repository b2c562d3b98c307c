import Mathlib
import ProfileDrift.Proofs.FitOutcome
import ProfileDrift.Scalar.Double

namespace ProfileDrift.Model

section Ladder

variable {α : Type} [Scalar α]

/-- The family takes logarithms of sizes, and a size has none. -/
def OutsideX (family : Family) (observations : List (Observation α)) : Prop :=
  family.needsPositiveX = true ∧ ∃ point ∈ observations, point.x ≤ 0.0

/-- The family takes logarithms of amounts, and an amount has none. -/
def OutsideY (family : Family) (observations : List (Observation α)) : Prop :=
  family.needsPositiveY = true ∧ ∃ point ∈ observations, point.y ≤ 0.0

/-- The family has a slope, and there are no two sizes that differ. What is not a number
differs from everything. -/
def Degenerate (family : Family) (observations : List (Observation α)) : Prop :=
  family ≠ .constant ∧ (observations.length < 2 ∨
    ∀ point ∈ observations, ∀ other ∈ observations, (point.x == other.x) = true)

/-- The family has a slope, and no amount differs from the first. -/
def Unvaried (family : Family) (observations : List (Observation α)) : Prop :=
  family ≠ .constant ∧ ∃ first, observations.head? = some first ∧
    ∀ point ∈ observations, (point.y == first.y) = true

/-- There are observations, and none of them lies outside the domain of the family. -/
def Admitted (family : Family) (observations : List (Observation α)) : Prop :=
  observations ≠ [] ∧ ¬ OutsideX family observations ∧ ¬ OutsideY family observations

/-- What is done with observations that are not refused. -/
def calculate (family : Family) (observations : List (Observation α)) :
    Except FitFailure (Model α) :=
  bestCoefficients family observations >>= fun coefficients =>
    checkFinite (ofCoefficients family observations coefficients)

variable {family : Family} {observations : List (Observation α)}

open Classical in
theorem checkDomain_eq : checkDomain family observations =
    if OutsideX family observations then .error (.domain family .x)
    else if OutsideY family observations then .error (.domain family .y)
    else .ok () := by
  have sizes : (family.needsPositiveX && observations.any fun point => decide (point.x ≤ 0.0)) =
      true ↔ OutsideX family observations := by
    simp only [OutsideX, Bool.and_eq_true, List.any_eq_true, decide_eq_true_eq]
  have amounts : (family.needsPositiveY && observations.any fun point => decide (point.y ≤ 0.0)) =
      true ↔ OutsideY family observations := by
    simp only [OutsideY, Bool.and_eq_true, List.any_eq_true, decide_eq_true_eq]
  exact if_congr sizes rfl (if_congr amounts rfl rfl)

theorem degenerate_iff (sloped : family ≠ .constant) : Degenerate family observations ↔
    observations.length < 2 ∨ alike (observations.map (·.x)) = true := by
  rw [Degenerate, and_iff_right sloped, alike_iff]
  simp only [List.forall_mem_map]

theorem unvaried_iff [PartialEquivBEq α] (sloped : family ≠ .constant) (some : observations ≠ []) :
    Unvaried family observations ↔ alike (observations.map (·.y)) = true := by
  obtain ⟨first, rest, rfl⟩ := List.exists_cons_of_ne_nil some
  rw [Unvaried, and_iff_right sloped, List.map_cons, ← all_beq_first, ← List.map_cons,
    List.all_eq_true]
  simp only [List.head?_cons, Option.some.injEq, exists_eq_left', List.forall_mem_map]

open Classical in
/-- Refusals stand on a ladder, and the first that applies is the answer. Only what gets
past all of them is calculated with. -/
theorem fit_eq_ladder [PartialEquivBEq α] : fit family observations =
    if observations = [] then .error .empty
    else if OutsideX family observations then .error (.domain family .x)
    else if OutsideY family observations then .error (.domain family .y)
    else if Degenerate family observations then .error (.degenerate family)
    else if Unvaried family observations then .error (.flatData family)
    else calculate family observations := by
  rw [fit_eq, checkDomain_eq]
  by_cases none : observations = []
  · rw [if_pos none, if_pos (List.isEmpty_iff.mpr none)]
  rw [if_neg none, if_neg (mt List.isEmpty_iff.mp none)]
  by_cases sizes : OutsideX family observations
  · rw [if_pos sizes, if_pos sizes]
    rfl
  rw [if_neg sizes, if_neg sizes]
  by_cases amounts : OutsideY family observations
  · rw [if_pos amounts, if_pos amounts]
    rfl
  rw [if_neg amounts, if_neg amounts]
  by_cases constant : family = .constant
  · rw [if_pos constant, if_neg fun degenerate => degenerate.1 constant,
      if_neg fun unvaried => unvaried.1 constant]
    rfl
  rw [if_neg constant, checkSpread_eq, if_congr (degenerate_iff constant).symm rfl rfl]
  by_cases degenerate : Degenerate family observations
  · rw [if_pos degenerate, if_pos degenerate]
    rfl
  rw [if_neg degenerate, if_neg degenerate, if_congr (unvaried_iff constant none).symm rfl rfl]
  by_cases unvaried : Unvaried family observations
  · rw [if_pos unvaried, if_pos unvaried]
    rfl
  rw [if_neg unvaried, if_neg unvaried]
  rfl

/-- What is calculated with either gives a model or numbers that are not finite, or it has no
spread after all, in the coordinates of the family. -/
inductive Calculated {α : Type} (family : Family) : Except FitFailure (Model α) → Prop
  | fitted (model) : Calculated family (.ok model)
  | singular : family ≠ .constant → Calculated family (.error (.singularSystem family))
  | nonFinite : Calculated family (.error (.nonFinite family))

theorem calculated_ofCoefficients (coefficients : List α) :
    Calculated family (checkFinite (ofCoefficients family observations coefficients)) := by
  unfold checkFinite
  split_ifs
  · exact .nonFinite
  · exact .nonFinite
  · exact .fitted _

theorem calculated : Calculated family (calculate family observations) := by
  by_cases constant : family = .constant
  · subst constant
    exact calculated_ofCoefficients _
  rw [calculate, bestCoefficients_of_sloped constant, regress]
  dsimp only
  split_ifs
  · exact .nonFinite
  · exact .singular constant
  · exact calculated_ofCoefficients _

theorem mem_fitAll {model : Model α} :
    model ∈ fitAll observations ↔ fit model.family observations = .ok model := by
  constructor
  · intro member
    obtain ⟨family, fitted⟩ := fit_of_mem_fitAll member
    rwa [family_of_fit fitted]
  · intro fitted
    have listed : model.family ∈ Family.all := by cases model.family <;> decide
    rw [fitAll_eq, List.mem_filterMap]
    exact ⟨model.family, listed, by rw [fitted]; rfl⟩

/-- Under a family stands what is fitted for it, if anything is. -/
theorem find?_fitAll : (fitAll observations).find? (fun model => model.family = family) =
    (fit family observations).toOption := by
  cases found : (fitAll observations).find? (fun model => model.family = family) with
  | some model =>
    have own : model.family = family := by simpa using List.find?_some found
    rw [← own, mem_fitAll.mp (List.mem_of_find?_eq_some found)]
    rfl
  | none =>
    cases outcome : fit family observations with
    | error => rfl
    | ok model =>
      have own := family_of_fit outcome
      have member : model ∈ fitAll observations := mem_fitAll.mpr (own ▸ outcome)
      exact absurd (decide_eq_true own) (List.find?_eq_none.mp found model member)

end Ladder

/-- Which observations a family refuses and why, whatever numbers they are made of. Each
refusal is made only where none of those before it applies. -/
theorem fit_refuses (family : Family) (observations : List (Observation Float)) :
    (∀ model, (fitAll observations).find? (fun model => model.family = family) = some model ↔
      fit family observations = .ok model) ∧
    (fit family observations = .error .empty ↔ observations = []) ∧
    ((∃ side, fit family observations = .error (.domain family side)) ↔
      OutsideX family observations ∨ OutsideY family observations) ∧
    (fit family observations = .error (.domain family .x) ↔ OutsideX family observations) ∧
    (fit family observations = .error (.degenerate family) ↔
      Admitted family observations ∧ Degenerate family observations) ∧
    (fit family observations = .error (.flatData family) ↔
      Admitted family observations ∧ ¬ Degenerate family observations ∧
        Unvaried family observations) ∧
    (Admitted family observations ∧ ¬ Degenerate family observations ∧
        ¬ Unvaried family observations ↔
      (∃ model, fit family observations = .ok model) ∨
        family ≠ .constant ∧ fit family observations = .error (.singularSystem family) ∨
        fit family observations = .error (.nonFinite family)) := by
  have stored : ∀ model, (fitAll observations).find? (fun model => model.family = family) =
      some model ↔ fit family observations = .ok model := by
    intro model
    rw [find?_fitAll]
    cases fit family observations <;> simp [Except.toOption]
  refine ⟨stored, ?_⟩
  rw [fit_eq_ladder]
  -- On each rung the result is known, and no other rung has the same result.
  by_cases none : observations = []
  · subst none
    simp [Admitted, OutsideX, OutsideY]
  by_cases sizes : OutsideX family observations
  · simp [Admitted, none, sizes]
  by_cases amounts : OutsideY family observations
  · simp [Admitted, none, sizes, amounts]
  by_cases degenerate : Degenerate family observations
  · simp [Admitted, none, sizes, amounts, degenerate]
  by_cases unvaried : Unvaried family observations
  · simp [Admitted, none, sizes, amounts, degenerate, unvaried]
  have outcome : Calculated family (calculate family observations) := calculated
  generalize calculate family observations = result at outcome ⊢
  cases outcome with
  | fitted model => simp [Admitted, none, sizes, amounts, degenerate, unvaried]
  | singular sloped => simp [Admitted, none, sizes, amounts, degenerate, unvaried, sloped]
  | nonFinite => simp [Admitted, none, sizes, amounts, degenerate, unvaried]

end ProfileDrift.Model
