import ProfileDrift.Proofs.CertainChange
import ProfileDrift.Scalar.Blocks

namespace ProfileDrift

/-- How much a change of this kind weighs, whatever its direction. -/
def ChangeKind.severity : ChangeKind → Nat
  | noChange | unknown => 0
  | maybeDegradation | maybeOptimization => 1
  | degradation | optimization => 2

/-- A kind of change fades into another when something is known in both, the direction is kept
as far as there is one, and the other is no more certain. -/
inductive ChangeKind.Fades : ChangeKind → ChangeKind → Prop
  | same (kind : ChangeKind) : Fades kind kind
  | away {kind : ChangeKind} : kind ≠ .unknown → Fades kind .noChange
  | degradation : Fades .degradation .maybeDegradation
  | optimization : Fades .optimization .maybeOptimization

namespace ChangeKind.Fades

variable {kind faded : ChangeKind}

theorem unknown_iff (fades : Fades kind faded) : faded = .unknown ↔ kind = .unknown := by
  cases fades with
  | same => exact Iff.rfl
  | away known => exact iff_of_false nofun known
  | degradation | optimization => exact iff_of_false nofun nofun

theorem severity_le (fades : Fades kind faded) : faded.severity ≤ kind.severity := by
  cases fades with
  | same => exact Nat.le_refl _
  | away => exact Nat.zero_le _
  | degradation | optimization => exact Nat.le_succ 1

theorem isDegradation (fades : Fades kind faded) (worse : faded.isDegradation = true) :
    kind.isDegradation = true := by
  cases fades with
  | same => exact worse
  | away | optimization => cases worse
  | degradation => rfl

theorem isOptimization (fades : Fades kind faded) (better : faded.isOptimization = true) :
    kind.isOptimization = true := by
  cases fades with
  | same => exact better
  | away | degradation => cases better
  | optimization => rfl

end ChangeKind.Fades

/-- A report fades into one that says the same except for a kind of change that it fades into. -/
def ChangeReport.Fades {α : Type} (report faded : ChangeReport α) : Prop :=
  faded = { report with kind := faded.kind } ∧ report.kind.Fades faded.kind

theorem ChangeReport.Fades.refl {α : Type} (report : ChangeReport α) : report.Fades report :=
  ⟨rfl, .same _⟩

namespace Method

/-- A method is loosened when it compares in the same way and takes more for a change, or for a
certain one. -/
inductive Loosened : Method Float → Method Float → Prop
  | averageAmount {degradation degradation' optimization optimization' : Float} :
      degradation ≤ degradation' → optimization' ≤ optimization →
      Loosened (.averageAmount degradation optimization) (.averageAmount degradation' optimization')
  | modelOrder {confidence confidence' : Float} : confidence ≤ confidence' →
      Loosened (.modelOrder confidence) (.modelOrder confidence')
  | fastCheck {change change' : Float} : change ≤ change' →
      Loosened (.fastCheck change) (.fastCheck change')
  | integral {noChange noChange' change change' : Float} : noChange ≤ noChange' →
      change ≤ change' → Loosened (.integral noChange change) (.integral noChange' change')
  | linearRegression {change change' : Float} : change ≤ change' →
      Loosened (.linearRegression change) (.linearRegression change')

section Kinds

/-- The ratio of an optimization is below one, so however the thresholds move apart it does not
come to that of a degradation. -/
theorem ratioChange_fades {degradation degradation' optimization optimization' : Float}
    (above : 1.0 < degradation) (below : optimization < 1.0) (more : degradation ≤ degradation')
    (less : optimization' ≤ optimization) (ratio : Float) :
    (ratioChange degradation optimization ratio).Fades
      (ratioChange degradation' optimization' ratio) := by
  unfold ratioChange
  by_cases worse : degradation' ≤ ratio
  · rw [if_pos worse, if_pos (Double.le_trans more worse)]
    exact .same _
  rw [if_neg worse]
  by_cases better : ratio ≤ optimization'
  · have low : ratio ≤ optimization := Double.le_trans better less
    have level : ¬ degradation ≤ ratio :=
      Double.not_le_of_lt (Double.lt_lt_trans (Double.le_lt_trans low below) above)
    rw [if_pos better, if_neg level, if_pos low]
    exact .same _
  · rw [if_neg better]
    exact .away (ratioChange_ne_unknown degradation optimization ratio)

theorem orderChange_fades (baseline target : Family) {certain certain' : Bool}
    (stricter : certain' = true → certain = true) :
    (orderChange baseline target certain).Fades (orderChange baseline target certain') := by
  cases certain' with
  | true =>
    rw [stricter rfl]
    exact .same _
  | false =>
    cases certain with
    | false => exact .same _
    | true =>
      unfold orderChange
      split
      · exact .same _
      · split
        · exact .degradation
        · exact .optimization

theorem areaChange_fades {noChange noChange' change change' : Float} (wider : noChange ≤ noChange')
    (more : change ≤ change') (difference : Float) :
    (areaChange noChange change difference).Fades (areaChange noChange' change' difference) := by
  by_cases none' : Scalar.abs difference ≤ noChange'
  · have faded : areaChange noChange' change' difference = .noChange := if_pos none'
    rw [faded]
    exact .away (areaChange_ne_unknown noChange change difference)
  have some : ¬ Scalar.abs difference ≤ noChange := fun none =>
    none' (Double.le_trans none wider)
  unfold areaChange
  dsimp only
  rw [if_neg none', if_neg some]
  by_cases unsure' : Scalar.abs difference ≤ change'
  · rw [if_pos unsure']
    by_cases unsure : Scalar.abs difference ≤ change
    · rw [if_pos unsure]
      exact .same _
    · rw [if_neg unsure]
      split
      · exact .optimization
      · exact .degradation
  · rw [if_neg unsure', if_neg fun unsure => unsure' (Double.le_trans unsure more)]
    exact .same _

theorem curveChange_fades (difference : CurveDifference Float) {threshold threshold' : Float}
    (more : threshold ≤ threshold') :
    (difference.change threshold).Fades (difference.change threshold') := by
  unfold CurveDifference.change
  split
  · exact .same _
  · split
    · by_cases certain : threshold' < difference.relative
      · rw [if_pos certain, if_pos (Double.le_lt_trans more certain)]
        exact .same _
      · rw [if_neg certain]
        split
        · exact .degradation
        · exact .same _
    · by_cases certain : difference.relative < -threshold'
      · have beyond := Double.le_lt_trans more (Double.lt_neg_of_lt_neg certain)
        rw [if_pos certain, if_pos (Double.lt_neg_of_lt_neg beyond)]
        exact .same _
      · rw [if_neg certain]
        split
        · exact .optimization
        · exact .same _

end Kinds

section Reports

variable {baseline target : Profile Float} {uid : String}

theorem reportOnModels_fades {name : MethodName} {subtype : String}
    {judge judge' : Model Float → Model Float → ChangeReport Float → ChangeReport Float}
    (fades : ∀ base other report, (judge base other report).Fades (judge' base other report)) :
    (reportOnModels name subtype baseline target uid judge).Fades
      (reportOnModels name subtype baseline target uid judge') := by
  unfold reportOnModels
  dsimp only
  split
  · exact fades _ _ _
  · exact .refl _

theorem compareAverages_fades [Tally Float] {degradation degradation' optimization optimization' : Float}
    (above : 1.0 < degradation) (below : optimization < 1.0) (more : degradation ≤ degradation')
    (less : optimization' ≤ optimization) :
    (compareAverages degradation optimization baseline target uid).Fades
      (compareAverages degradation' optimization' baseline target uid) := by
  unfold compareAverages
  dsimp only
  split
  · split
    · exact .refl _
    · exact ⟨rfl, ratioChange_fades above below more less _⟩
  · exact .refl _

theorem compareOrder_fades {threshold threshold' : Float} (more : threshold ≤ threshold') :
    (compareOrder threshold baseline target uid).Fades
      (compareOrder threshold' baseline target uid) := by
  refine reportOnModels_fades fun base other report => ⟨rfl, orderChange_fades _ _ fun certain => ?_⟩
  exact decide_eq_true (Double.le_trans more (of_decide_eq_true certain))

theorem compareAreas_fades {noChange noChange' change change' : Float}
    (wider : noChange ≤ noChange') (more : change ≤ change') :
    (compareAreas noChange change baseline target uid).Fades
      (compareAreas noChange' change' baseline target uid) := by
  refine reportOnModels_fades fun base other report => ?_
  dsimp only
  split
  · exact .refl _
  · split
    · exact .refl _
    · exact ⟨rfl, areaChange_fades wider more _⟩

/-- Whether there is a change of curves at all is not up to the threshold, so the shape of the
difference is named under both or under neither. -/
theorem compareCurves_fades [Tally Float] (name : MethodName)
    (shape : CurveDifference Float → String) {threshold threshold' : Float} (more : threshold ≤ threshold') :
    (compareCurves name threshold shape baseline target uid).Fades
      (compareCurves name threshold' shape baseline target uid) := by
  refine reportOnModels_fades fun base other report => ?_
  dsimp only
  split
  · exact .refl _
  · rename_i difference _
    have none : difference.change threshold' = .noChange ↔ difference.change threshold = .noChange :=
      CurveDifference.change_eq_noChange_iff.trans CurveDifference.change_eq_noChange_iff.symm
    refine ⟨?_, curveChange_fades difference more⟩
    simp only [none]
    rfl

theorem compare_fades [Tally Float] {name : String} {params : Keyed Float}
    {method looser : Method Float} (built : build name params = .ok method) (loosened : Loosened method looser) :
    (method.compare baseline target uid).Fades (looser.compare baseline target uid) := by
  cases loosened with
  | averageAmount more less =>
    obtain ⟨above, below⟩ := acceptsEqual_of_build built
    exact compareAverages_fades above below more less
  | modelOrder more => exact compareOrder_fades more
  | fastCheck more | linearRegression more => exact compareCurves_fades _ _ more
  | integral wider more => exact compareAreas_fades wider more

end Reports

/-- Looser thresholds change nothing in a report but the kind of change, and that only towards
less: what is known stays known, a certain change may become uncertain and either may become
none, but none turns up and none changes its direction. This holds for infinite rates as well;
one that is not a number is judged alike under all thresholds. -/
theorem compare_loosened [Tally Float] {name : String} {params : Keyed Float}
    {method looser : Method Float} (built : build name params = .ok method) (loosened : method.Loosened looser)
    (baseline target : Profile Float) (uid : String) :
    let strict := method.compare baseline target uid
    let loose := looser.compare baseline target uid
    loose = { strict with kind := loose.kind } ∧
      (loose.kind = .unknown ↔ strict.kind = .unknown) ∧
      loose.kind.severity ≤ strict.kind.severity ∧
      (loose.kind.isDegradation = true → strict.kind.isDegradation = true) ∧
      (loose.kind.isOptimization = true → strict.kind.isOptimization = true) := by
  intro strict loose
  obtain ⟨rest, fades⟩ : strict.Fades loose := compare_fades built loosened
  exact ⟨rest, fades.unknown_iff, fades.severity_le, fades.isDegradation, fades.isOptimization⟩

open scoped Lanes

/-- A line that is twice as steep, under the usual thresholds and where only a change beyond
twice the baseline is certain. -/
theorem compare_loosened_straight :
    let strict := (integral (0.10 : Float) usualChange).compare (straight 1.0 1.0)
      (straight 2.0 1.0) "main"
    let loose := (integral (0.10 : Float) 2.0).compare (straight 1.0 1.0) (straight 2.0 1.0) "main"
    build "int" .empty = .ok (integral (0.10 : Float) usualChange) ∧
      build "int" (.ofList [("change_threshold", 2.0)]) = .ok (integral (0.10 : Float) 2.0) ∧
      (integral (0.10 : Float) usualChange).Loosened (integral 0.10 2.0) ∧
      loose.kind = .maybeDegradation ∧ strict.kind.isDegradation = true ∧
      loose.kind.severity ≤ strict.kind.severity := by
  intro strict loose
  have built : build "int" .empty = .ok (integral (0.10 : Float) usualChange) := rfl
  have loosened : (integral (0.10 : Float) usualChange).Loosened (integral 0.10 2.0) :=
    .integral (by decide +kernel) (by decide +kernel)
  have unsure : loose.kind = .maybeDegradation := by decide +kernel
  obtain ⟨-, -, weaker, worse, -⟩ :=
    compare_loosened built loosened (straight 1.0 1.0) (straight 2.0 1.0) "main"
  exact ⟨built, rfl, loosened, unsure, worse (by rw [unsure]; rfl), weaker⟩

end Method

end ProfileDrift
