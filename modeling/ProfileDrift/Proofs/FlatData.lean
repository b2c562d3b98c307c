import ProfileDrift.Model.Selection
import ProfileDrift.Proofs.DoublePlace
import ProfileDrift.Proofs.FitOutcome
import ProfileDrift.Proofs.WholeDoubles

namespace ProfileDrift.Model

section Spread

variable {α : Type} [Scalar α]

/-- All amounts are equal. -/
def Flat (observations : List (Observation α)) : Prop :=
  ∀ point ∈ observations, ∀ other ∈ observations, (point.y == other.y) = true

instance (observations : List (Observation α)) : Decidable (Flat observations) :=
  inferInstanceAs (Decidable (∀ point ∈ observations, ∀ other ∈ observations, _))

theorem Flat.checkSpread {observations : List (Observation α)} (flat : Flat observations)
    (family : Family) : ∃ failure, checkSpread family observations = .error failure := by
  unfold Model.checkSpread
  split
  · exact ⟨_, rfl⟩
  · rename_i first rest
    split
    · exact ⟨_, rfl⟩
    · rw [if_pos (List.all_eq_true.mpr fun point member => flat point member first (by simp))]
      exact ⟨_, rfl⟩

theorem Flat.fit_sloped {observations : List (Observation α)} (flat : Flat observations)
    {family : Family} (sloped : family ≠ .constant) :
    (fit family observations).toOption = none := by
  obtain ⟨failure, unfit⟩ := flat.checkSpread family
  cases outcome : fit family observations with
  | error => rfl
  | ok model =>
    obtain ⟨_, _, spread, _⟩ := fit_eq_ok outcome
    rw [spread sloped] at unfit
    cases unfit

/-- Nothing but a level is ever fitted to flat data. -/
theorem Flat.fitAll {observations : List (Observation α)} (flat : Flat observations) :
    fitAll observations = (fit .constant observations).toOption.toList := by
  have others : [Family.exponential, .linear, .logarithmic, .power, .quadratic].filterMap
      (fun family => (fit family observations).toOption) = [] :=
    List.filterMap_eq_nil_iff.mpr fun family member =>
      flat.fit_sloped (by rintro rfl; simp at member)
  rw [fitAll_eq, Family.all, List.filterMap_cons, others]
  cases (fit .constant observations).toOption <;> rfl

theorem Flat.selectBest?_fitAll {observations : List (Observation α)} (flat : Flat observations) :
    selectBest? (Model.fitAll observations) = (fit .constant observations).toOption := by
  rw [flat.fitAll]
  cases outcome : fit .constant observations with
  | error => rfl
  | ok model =>
    obtain ⟨_, _, _, _, _, _, definite, _⟩ := fit_eq_ok outcome
    exact if_pos definite

end Spread

/-- The level that is computed for some amounts. -/
def level (observations : List (Observation Float)) : Float :=
  Scalar.mean (observations.map (·.y))

/-- No amount lies so far from the computed level that the square of the distance counts. -/
def Settled (observations : List (Observation Float)) : Prop :=
  ∀ point ∈ observations,
    ((point.y - level observations) * (point.y - level observations) == 0.0) = true

instance (observations : List (Observation Float)) : Decidable (Settled observations) :=
  inferInstanceAs (Decidable (∀ point ∈ observations, _))

variable {observations : List (Observation Float)}

/-- The squares of the distances from the level, added up. -/
def variation (observations : List (Observation Float)) : Float :=
  observations.foldl (fun sum point =>
    sum + (point.y - level observations) * (point.y - level observations)) 0.0

theorem settled_iff : Settled observations ↔ (variation observations == 0.0) = true := by
  obtain ⟨accrued, none⟩ := Double.foldl_squares (fun point : Observation Float =>
    point.y - level observations) observations (show Double.IsAccrued 0.0 from .zero)
  rw [variation, accrued.beq_zero_iff, none, and_iff_right rfl]
  exact forall₂_congr fun _ _ => (Double.isAccrued_mul_self _).beq_zero_iff

theorem foldl_withSquares_level (model : Model Float) {yMean : Float}
    (same : ∀ x, model.evaluate x = yMean) (points : List (Observation Float)) (start : Float) :
    points.foldl (withSquares model yMean) (start, start) =
      (points.foldl (fun sum point => sum + (point.y - yMean) * (point.y - yMean)) start,
        points.foldl (fun sum point => sum + (point.y - yMean) * (point.y - yMean)) start) := by
  induction points generalizing start with
  | nil => rfl
  | cons point points ih =>
    rw [List.foldl_cons, withSquares, same]
    exact ih _

/-- A model that stays at the level leaves over all that it was to explain. -/
theorem explained_level {model : Model Float}
    (same : ∀ x, model.evaluate x = level observations) :
    explained model observations = if variation observations == 0.0 then 1.0
      else 1.0 - variation observations / variation observations := by
  have squares : observations.foldl
      (withSquares model (Scalar.mean (observations.map (·.y)))) (0.0, 0.0) =
        (variation observations, variation observations) :=
    foldl_withSquares_level model same observations 0.0
  rw [explained_eq, squares]

theorem rSquare_level : (ofCoefficients .constant observations [level observations]).rSquare =
    if variation observations == 0.0 then 1.0
    else 1.0 - variation observations / variation observations := explained_level fun _ => rfl

/-- A fitted level explains all of the amounts or nothing of them. -/
theorem rSquare_constant {model : Model Float} (fitted : fit .constant observations = .ok model) :
    Settled observations ∧ model.rSquare = 1.0 ∨ ¬ Settled observations ∧ model.rSquare = 0.0 := by
  obtain ⟨_, _, _, _, best, _, definite, rfl⟩ := fit_eq_ok fitted
  cases best
  change Scalar.isFinite (ofCoefficients .constant observations [level observations]).rSquare = true
    at definite
  change _ ∧ (ofCoefficients .constant observations [level observations]).rSquare = _ ∨
    _ ∧ (ofCoefficients .constant observations [level observations]).rSquare = _
  rw [rSquare_level] at definite ⊢
  rw [settled_iff]
  cases none : variation observations == 0.0 with
  | true => exact .inl ⟨rfl, rfl⟩
  | false =>
    rw [none] at definite
    exact .inr ⟨Bool.false_ne_true, Double.one_sub_div_self none definite⟩

theorem rSquare_eq_one_iff {model : Model Float}
    (fitted : fit .constant observations = .ok model) :
    model.rSquare = 1.0 ↔ Settled observations := by
  rcases rSquare_constant fitted with ⟨settled, whole⟩ | ⟨off, nothing⟩
  · exact iff_of_true whole settled
  · rw [nothing]
    exact iff_of_false (by decide +kernel) off

/-- Where the computed level is that of every amount the fit succeeds. -/
theorem exists_fit_of_settled (some : observations ≠ []) (settled : Settled observations) :
    ∃ model, fit .constant observations = .ok model := by
  obtain ⟨point, member⟩ := List.exists_mem_of_ne_nil observations some
  have finite : (level observations).isFinite = true :=
    Double.isFinite_of_isFinite_sub (Double.isFinite_of_mul_self_eq_zero
      ((Double.isAccrued_mul_self _).beq_zero_iff.mp (settled point member)))
  refine ⟨_, (fit_constant_eq some).trans (checkFinite_eq_ok ?_ ?_)⟩
  · exact List.forall_mem_singleton.mpr finite
  · change (ofCoefficients .constant observations [level observations]).rSquare.isFinite = true
    rw [rSquare_level, if_pos (settled_iff.mp settled)]
    decide +kernel

/-- What is fitted to flat data is a level, and it explains all of the amounts exactly if none
of them counts as off the level that is computed. -/
theorem selectBest?_flat (some : observations ≠ []) (flat : Flat observations) :
    ((∃ model, fit .constant observations = .ok model ∧ model.rSquare = 1.0) ↔
      Settled observations) ∧
    (∀ model, fit .constant observations = .ok model → ¬ Settled observations →
      model.rSquare = 0.0) ∧
    selectBest? (fitAll observations) = (fit .constant observations).toOption := by
  refine ⟨⟨?_, fun settled => ?_⟩, fun model fitted off => ?_, flat.selectBest?_fitAll⟩
  · rintro ⟨model, fitted, whole⟩
    exact (rSquare_eq_one_iff fitted).mp whole
  · obtain ⟨model, fitted⟩ := exists_fit_of_settled some settled
    exact ⟨model, fitted, (rSquare_eq_one_iff fitted).mpr settled⟩
  · rcases rSquare_constant fitted with ⟨settled, -⟩ | ⟨-, nothing⟩
    · exact absurd settled off
    · exact nothing

theorem selectBest?_flat_fours :
    Settled [⟨1.0, 4.0⟩, ⟨2.0, 4.0⟩, ⟨3.0, 4.0⟩] ∧
      ∃ model, fit .constant [⟨1.0, (4.0 : Float)⟩, ⟨2.0, 4.0⟩, ⟨3.0, 4.0⟩] = .ok model ∧
        model.rSquare = 1.0 := by
  have settled : Settled [⟨1.0, 4.0⟩, ⟨2.0, 4.0⟩, ⟨3.0, 4.0⟩] := by decide +kernel
  exact ⟨settled, (selectBest?_flat (by decide) (by decide +kernel)).1.mpr settled⟩

/-- The mean of three tenths is not a tenth, so a level does not explain three tenths. -/
theorem fit_flat_tenths : ¬ ∀ observations : List (Observation Float), observations ≠ [] →
    (∀ point ∈ observations, point.x.isFinite = true ∧ point.y.isFinite = true) →
    Flat observations →
      (∃ model, fit .constant observations = .ok model ∧ model.rSquare = 1.0) ∧
        ∃ model, selectBest? (fitAll observations) = some model ∧
          model.family = .constant ∧ model.rSquare = 1.0 := by
  intro explained
  obtain ⟨⟨model, fitted, whole⟩, -⟩ := explained [⟨1.0, 0.1⟩, ⟨2.0, 0.1⟩, ⟨3.0, 0.1⟩] (by decide)
    (by decide +kernel) (by decide +kernel)
  exact absurd ((rSquare_eq_one_iff fitted).mp whole) (by decide +kernel)

section Whole

variable {count : ℕ}

theorem isFinite_whole (some : observations ≠ [])
    (narrow : observations.length * count < 2 ^ 53) : (Float.ofNat count).isFinite = true := by
  have single := Nat.le_mul_of_pos_left count (List.length_pos_of_ne_nil some)
  exact Double.isFinite_ofNat (by omega)

/-- Equal whole amounts are level, as far as their sum has no more than fifty-three bits. -/
theorem settled_of_whole (same : ∀ point ∈ observations, point.y = Float.ofNat count)
    (few : observations.length < 2 ^ 53) (narrow : observations.length * count < 2 ^ 53) :
    Settled observations := by
  intro point member
  have amounts : ∀ value ∈ observations.map (·.y), value = Float.ofNat count :=
    List.forall_mem_map.mpr same
  have finite := isFinite_whole (List.ne_nil_of_mem member) narrow
  rw [← List.length_map (·.y)] at few narrow
  have exact : level observations = Float.ofNat count :=
    Double.mean_ofNat (List.ne_nil_of_mem (List.mem_map_of_mem member)) amounts few narrow
  rw [same point member, exact, Double.sub_self_eq_zero finite]
  decide +kernel

/-- Counts that do not vary are explained perfectly, and by nothing but their level. -/
theorem exists_selectBest?_whole (some : observations ≠ [])
    (same : ∀ point ∈ observations, point.y = Float.ofNat count)
    (few : observations.length < 2 ^ 53) (narrow : observations.length * count < 2 ^ 53) :
    ∃ model, selectBest? (fitAll observations) = Option.some model ∧
      model.family = .constant ∧ model.rSquare = 1.0 := by
  have settled := settled_of_whole same few narrow
  obtain ⟨model, fitted⟩ := exists_fit_of_settled some settled
  have flat : Flat observations := by
    intro point member other other_member
    have number := Double.not_isNaN_of_isFinite (isFinite_whole some narrow)
    rw [same point member, same other other_member, Double.beq_iff_place number number]
  refine ⟨model, ?_, family_of_fit fitted, (rSquare_eq_one_iff fitted).mpr settled⟩
  rw [flat.selectBest?_fitAll, fitted]
  rfl

end Whole

end ProfileDrift.Model
