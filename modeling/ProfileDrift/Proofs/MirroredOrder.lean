import ProfileDrift.Proofs.SwappedCurves

namespace ProfileDrift

/-- What a change is called from the other side. -/
def ChangeKind.mirror : ChangeKind → ChangeKind
  | degradation => optimization
  | optimization => degradation
  | maybeDegradation => maybeOptimization
  | maybeOptimization => maybeDegradation
  | kind => kind

/-- A report with the sides exchanged. -/
def ChangeReport.mirror {α : Type} (report : ChangeReport α) : ChangeReport α :=
  { report with
    kind := report.kind.mirror
    baselineValue := report.targetValue
    targetValue := report.baselineValue }

namespace Family

/-- Families are told apart by how steeply they grow. -/
theorem complexity_injective : Function.Injective complexity := by
  intro family other
  cases family <;> cases other <;> decide

end Family

namespace Method

open Double (IsSame)

section Order

variable (baseline target : Family) (certain : Bool)

theorem orderChange_swap :
    orderChange target baseline certain = (orderChange baseline target certain).mirror := by
  unfold orderChange
  rcases lt_trichotomy baseline.complexity target.complexity with above | level | below
  · rw [if_neg above.ne, if_neg above.not_gt, if_neg above.ne', if_pos above]
    cases certain <;> rfl
  · rw [if_pos level, if_pos level.symm]
    rfl
  · rw [if_neg below.ne', if_pos below, if_neg below.ne, if_neg below.not_gt]
    cases certain <;> rfl

theorem orderChange_eq_noChange_iff :
    orderChange baseline target certain = .noChange ↔ baseline = target := by
  unfold orderChange
  by_cases level : target.complexity = baseline.complexity
  · rw [if_pos level]
    exact iff_of_true rfl (Family.complexity_injective level).symm
  · rw [if_neg level]
    refine iff_of_false ?_ fun same => level (congrArg Family.complexity same.symm)
    cases certain <;> split <;> exact nofun

theorem orderChange_certain_iff :
    (orderChange baseline target certain = .degradation ∨
        orderChange baseline target certain = .optimization) ↔
      baseline ≠ target ∧ certain = true := by
  by_cases level : orderChange baseline target certain = .noChange
  · rw [level]
    have same := (orderChange_eq_noChange_iff baseline target certain).mp level
    exact iff_of_false (by decide) fun ⟨apart, _⟩ => apart same
  · have apart := mt (orderChange_eq_noChange_iff baseline target certain).mpr level
    rw [and_iff_right apart]
    unfold orderChange at level ⊢
    split at level
    · exact absurd rfl level
    · rename_i steps
      rw [if_neg steps]
      cases certain <;> split <;> decide

/-- Which of two models is named first does not matter for the confidence in both. -/
theorem confidenceOf_swap (base other : Model Float) :
    IsSame (confidenceOf base other) (confidenceOf other base) :=
  (Double.smaller_comm base.rSquare other.rSquare).clamp 0.0 1.0

end Order

section Reports

variable {threshold : Float} {baseline target : Profile Float} {uid : String}

theorem compareOrder_of_models {base other : Model Float} (found : baseline.bestModel? uid = some base)
    (found' : target.bestModel? uid = some other) :
    compareOrder threshold baseline target uid =
      { method := MethodName.modelOrder.full
        kind := orderChange base.family other.family (decide (threshold ≤ confidenceOf base other))
        subtype := "complexity order"
        location := uid
        baselineValue := base.family.name
        targetValue := other.family.name
        confidence := some (confidenceOf base other)
        confidenceType := some "r_square"
        rate := none } := by
  unfold compareOrder reportOnModels
  rw [found, found']
  rfl

theorem compareOrder_of_none
    (missing : baseline.bestModel? uid = none ∨ target.bestModel? uid = none) :
    compareOrder threshold baseline target uid =
      (ChangeReport.undetermined MethodName.modelOrder.full "complexity order" uid).withValues
        (familyName (baseline.bestModel? uid)) (familyName (target.bestModel? uid)) := by
  unfold compareOrder reportOnModels
  rcases missing with none | none
  · rw [none]
  · rw [none]
    cases baseline.bestModel? uid <;> rfl

theorem compareOrder_swap (threshold : Float) (baseline target : Profile Float) (uid : String) :
    let forth := compareOrder threshold baseline target uid
    let back := compareOrder threshold target baseline uid
    back = { forth.mirror with confidence := back.confidence } ∧
      Option.Rel (fun told told' => (told == told') = true) forth.confidence back.confidence := by
  intro forth back
  cases found : baseline.bestModel? uid with
  | none =>
    have unknown : forth = _ := compareOrder_of_none (.inl found)
    have unknown' : back = _ := compareOrder_of_none (.inr found)
    rw [unknown, unknown']
    exact ⟨rfl, .none⟩
  | some base =>
    cases found' : target.bestModel? uid with
    | none =>
      have unknown : forth = _ := compareOrder_of_none (.inr found')
      have unknown' : back = _ := compareOrder_of_none (.inl found')
      rw [unknown, unknown']
      exact ⟨rfl, .none⟩
    | some other =>
      have known : forth = _ := compareOrder_of_models found found'
      have known' : back = _ := compareOrder_of_models found' found
      have same := confidenceOf_swap base other
      obtain ⟨-, -, -, -, -, above, -⟩ := confidenceOf_spec (Model.definite_of_selectBest? found)
        (Model.definite_of_selectBest? found')
      have reached : (threshold ≤ confidenceOf other base) ↔ threshold ≤ confidenceOf base other :=
        (Double.IsSame.le_iff_le (.refl threshold) same).symm
      rw [known, known', ChangeReport.mirror, ← orderChange_swap, decide_eq_decide.mpr reached]
      exact ⟨rfl, .some (same.beq (Double.not_isNaN_of_le above).2)⟩

end Reports

/-- Compared the other way round, the order of two best models gives the same report from the
other side: what was a degradation is an optimization as certain, and the confidence is the
same number. There is no change exactly if both sides have best models of one family, since no two
families grow alike, and a change is certain exactly if it is one and the confidence reaches the
threshold, whatever the threshold is. -/
theorem compare_mirrored [Tally Float] (threshold : Float) (baseline target : Profile Float)
    (uid : String) :
    let forth := (modelOrder threshold).compare baseline target uid
    let back := (modelOrder threshold).compare target baseline uid
    (back = { forth.mirror with confidence := back.confidence } ∧
      Option.Rel (fun told told' => (told == told') = true) forth.confidence back.confidence) ∧
    (forth.kind = .noChange ↔ ∃ base other, baseline.bestModel? uid = some base ∧
      target.bestModel? uid = some other ∧ base.family = other.family) ∧
    (forth.kind = .degradation ∨ forth.kind = .optimization ↔
      ∃ base other confidence, baseline.bestModel? uid = some base ∧
        target.bestModel? uid = some other ∧ base.family ≠ other.family ∧
        forth.confidence = some confidence ∧ threshold ≤ confidence) := by
  intro forth back
  have compared : compareOrder threshold baseline target uid = forth := rfl
  refine ⟨compareOrder_swap threshold baseline target uid, ⟨fun none => ?_, ?_⟩, fun certain => ?_, ?_⟩
  · obtain ⟨base, other, found, found', kind, -⟩ :=
      compareOrder_decided compared (by rw [none]; exact nofun)
    rw [kind, orderChange_eq_noChange_iff] at none
    exact ⟨base, other, found, found', none⟩
  · rintro ⟨base, other, found, found', same⟩
    rw [← compared, compareOrder_of_models found found']
    exact (orderChange_eq_noChange_iff ..).mpr same
  · obtain ⟨base, other, found, found', kind, told⟩ :=
      compareOrder_decided compared (by rcases certain with is | is <;> rw [is] <;> exact nofun)
    rw [kind, orderChange_certain_iff] at certain
    exact ⟨base, other, _, found, found', certain.1, told, of_decide_eq_true certain.2⟩
  · rintro ⟨base, other, confidence, found, found', apart, told, reached⟩
    rw [← compared, compareOrder_of_models found found'] at told ⊢
    cases told
    exact (orderChange_certain_iff ..).mpr ⟨apart, decide_eq_true reached⟩

end Method

end ProfileDrift
