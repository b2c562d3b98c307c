import ProfileDrift.Proofs.DoubleOrder
import ProfileDrift.Proofs.PairReports
import ProfileDrift.Scalar.Blocks

namespace ProfileDrift

theorem ChangeKind.ne_unknown_of_mem {kind : ChangeKind}
    (member : kind ∈ [noChange, degradation, optimization, maybeDegradation, maybeOptimization]) :
    kind ≠ .unknown := by
  rintro rfl
  revert member
  decide

section Best

variable {α : Type} [Scalar α]

theorem Model.definite_of_foldl_better {models : List (Model α)} {best : Option (Model α)}
    (before : ∀ model, best = some model → Scalar.isFinite model.rSquare = true) {model : Model α}
    (found : models.foldl better best = some model) : Scalar.isFinite model.rSquare = true := by
  induction models generalizing best with
  | nil => exact before model found
  | cons first rest ih =>
    refine ih (fun chosen same => ?_) found
    unfold better at same
    split at same
    · rename_i definite
      split at same
      · cases same
        exact definite
      · split at same
        · cases same
          exact definite
        · exact before chosen same
    · exact before chosen same

/-- The best of some models explains a definite part of the variance. -/
theorem Model.definite_of_selectBest? {models : List (Model α)} {model : Model α}
    (found : selectBest? models = some model) : Scalar.isFinite model.rSquare = true :=
  definite_of_foldl_better (by rintro _ ⟨⟩) found

end Best

namespace Method

section Judged

variable {α : Type} [Scalar α]

/-- What becomes of a report when two models are judged. Either it stays as it was begun, or
it is decided: then it tells the confidence in both models and, if the method measures the
change, a rate. -/
inductive Judged (measures : Bool) (base other : Model α) (begun : ChangeReport α) :
    ChangeReport α → Prop
  | undecided : Judged measures base other begun begun
  | decided {report : ChangeReport α} :
      report.kind ≠ .unknown → report.baselineValue = begun.baselineValue →
      report.targetValue = begun.targetValue → report.confidence = some (confidenceOf base other) →
      report.confidenceType = some "r_square" → report.rate.isSome = measures →
      Judged measures base other begun report

/-- What a report on models tells besides its labels, by the models that were found. -/
structure TellsModels (measures : Bool) (base other : Option (Model α))
    (report : ChangeReport α) : Prop where
  baseline : report.baselineValue = familyName base
  target : report.targetValue = familyName other
  found : report.kind ≠ .unknown → ∃ first second, base = some first ∧ other = some second ∧
    report.confidence = some (confidenceOf first second) ∧
      report.confidenceType = some "r_square" ∧ report.rate.isSome = measures
  lost : report.kind = .unknown →
    report.confidence = none ∧ report.confidenceType = none ∧ report.rate = none

section Parts

variable {measures : Bool} {base other : Option (Model α)} {report : ChangeReport α}

/-- A rate is there exactly if something is known and the method measures the change. -/
theorem TellsModels.rate_iff (tells : TellsModels measures base other report) :
    report.rate.isSome = true ↔ report.kind ≠ .unknown ∧ measures = true := by
  by_cases unknown : report.kind = .unknown
  · obtain ⟨_, _, unrated⟩ := tells.lost unknown
    rw [unrated]
    exact ⟨nofun, fun ⟨known, _⟩ => absurd unknown known⟩
  · obtain ⟨_, _, _, _, _, _, measured⟩ := tells.found unknown
    rw [measured]
    exact ⟨fun measures => ⟨unknown, measures⟩, fun ⟨_, measures⟩ => measures⟩

/-- A confidence is there exactly if something is known, and it is the one in both models. -/
theorem TellsModels.confidence_spec (tells : TellsModels measures base other report) :
    (report.confidence.isSome = true ↔ report.kind ≠ .unknown) ∧
      report.confidenceType = report.confidence.map (fun _ => "r_square") ∧
      ∀ confidence, report.confidence = some confidence → ∃ first second,
        base = some first ∧ other = some second ∧ confidence = confidenceOf first second := by
  by_cases unknown : report.kind = .unknown
  · obtain ⟨unsure, untyped, _⟩ := tells.lost unknown
    rw [unsure, untyped]
    exact ⟨⟨nofun, fun known => absurd unknown known⟩, rfl, nofun⟩
  · obtain ⟨first, second, found, found', confident, typed, _⟩ := tells.found unknown
    rw [confident, typed]
    refine ⟨⟨fun _ => unknown, fun _ => rfl⟩, rfl, ?_⟩
    rintro _ ⟨⟩
    exact ⟨first, second, found, found', rfl⟩

theorem TellsModels.unknown_of_none (tells : TellsModels measures base other report)
    (missing : base = none ∨ other = none) : report.kind = .unknown := by
  by_contra known
  obtain ⟨_, _, rfl, rfl, _⟩ := tells.found known
  rcases missing with none | none <;> cases none

end Parts

theorem reportOnModels_tells {measures : Bool} {name : MethodName} {subtype : String}
    {baseline target : Profile α} {uid : String}
    {judge : Model α → Model α → ChangeReport α → ChangeReport α}
    (judged : ∀ base other report, report.rate = none →
      Judged measures base other report (judge base other report)) :
    TellsModels measures (baseline.bestModel? uid) (target.bestModel? uid)
      (reportOnModels name subtype baseline target uid judge) := by
  unfold reportOnModels
  dsimp only
  split
  · rename_i base other first second
    have step := judged base other ((ChangeReport.undetermined name.full subtype uid).withValues
      (familyName (baseline.bestModel? uid)) (familyName (target.bestModel? uid))) rfl
    rw [first, second] at step ⊢
    revert step
    generalize judge base other _ = report
    intro step
    cases step with
    | undecided => exact ⟨rfl, rfl, fun known => absurd rfl known, fun _ => ⟨rfl, rfl, rfl⟩⟩
    | decided known baselineKept targetKept confident type measured =>
      exact ⟨baselineKept, targetKept,
        fun _ => ⟨base, other, rfl, rfl, confident, type, measured⟩,
        fun unknown => absurd unknown known⟩
  · exact ⟨rfl, rfl, fun known => absurd rfl known, fun _ => ⟨rfl, rfl, rfl⟩⟩

theorem orderChange_ne_unknown (baseline target : Family) (certain : Bool) :
    orderChange baseline target certain ≠ .unknown := by
  unfold orderChange
  split_ifs <;> exact ChangeKind.ne_unknown_of_mem (by decide)

theorem areaChange_ne_unknown (noChange change difference : α) :
    areaChange noChange change difference ≠ .unknown := by
  unfold areaChange
  dsimp only
  split_ifs <;> exact ChangeKind.ne_unknown_of_mem (by decide)

theorem ratioChange_ne_unknown (degradation optimization ratio : α) :
    ratioChange degradation optimization ratio ≠ .unknown := by
  unfold ratioChange
  split_ifs <;> exact ChangeKind.ne_unknown_of_mem (by decide)

theorem curveChange_ne_unknown (difference : CurveDifference α) (threshold : α) :
    difference.change threshold ≠ .unknown := by
  unfold CurveDifference.change
  split_ifs <;> exact ChangeKind.ne_unknown_of_mem (by decide)

variable {baseline target : Profile α} {uid : String}

theorem compareOrder_tells (threshold : α) :
    TellsModels false (baseline.bestModel? uid) (target.bestModel? uid)
      (compareOrder threshold baseline target uid) := by
  refine reportOnModels_tells fun base other report unrated => ?_
  refine .decided (orderChange_ne_unknown _ _ _) rfl rfl rfl rfl ?_
  exact congrArg Option.isSome unrated

theorem compareAreas_tells (noChange change : α) :
    TellsModels true (baseline.bestModel? uid) (target.bestModel? uid)
      (compareAreas noChange change baseline target uid) := by
  refine reportOnModels_tells fun base other report _ => ?_
  dsimp only
  split
  · exact .undecided
  · split
    · exact .undecided
    · exact .decided (areaChange_ne_unknown _ _ _) rfl rfl rfl rfl rfl

theorem compareCurves_tells [Tally α] (name : MethodName) (threshold : α)
    (shape : CurveDifference α → String) :
    TellsModels true (baseline.bestModel? uid) (target.bestModel? uid)
      (compareCurves name threshold shape baseline target uid) := by
  refine reportOnModels_tells fun base other report _ => ?_
  dsimp only
  split
  · exact .undecided
  · exact .decided (curveChange_ne_unknown _ _) rfl rfl rfl rfl rfl

/-- The methods that compare the best models of both sides tell about them, and all but the
one that looks at families only measure the change. -/
theorem compare_tells [Tally α] [Hundredths α] {method : Method α}
    (onModels : method.name ≠ .averageAmount) :
    TellsModels (decide (method.name ≠ .modelOrder)) (baseline.bestModel? uid)
      (target.bestModel? uid) (method.compare baseline target uid) := by
  cases method with
  | averageAmount degradation optimization => exact absurd rfl onModels
  | modelOrder confidence => exact compareOrder_tells confidence
  | fastCheck change => exact compareCurves_tells _ change _
  | integral noChange change => exact compareAreas_tells noChange change
  | linearRegression change => exact compareCurves_tells _ change _

/-- The mean amounts are compared without any model, so there is nothing to be confident
in. -/
theorem compareAverages_tells [Tally α] [Hundredths α] (degradation optimization : α) :
    let report := compareAverages degradation optimization baseline target uid
    report.confidence = none ∧ report.confidenceType = none ∧
      (report.rate.isSome = true ↔ report.kind ≠ .unknown) := by
  have begun (report : ChangeReport α) (unknown : report.kind = .unknown)
      (unrated : report.rate = none) : report.rate.isSome = true ↔ report.kind ≠ .unknown := by
    rw [unknown, unrated]
    exact ⟨nofun, fun known => absurd rfl known⟩
  unfold compareAverages
  dsimp only
  split
  · split
    · exact ⟨rfl, rfl, begun _ rfl rfl⟩
    · exact ⟨rfl, rfl, fun _ => ratioChange_ne_unknown _ _ _, fun _ => rfl⟩
  · exact ⟨rfl, rfl, begun _ rfl rfl⟩

end Judged

theorem familyName_eq_unknown {α : Type} {best : Option (Model α)} :
    familyName best = "unknown" ↔ best = none := by
  cases best with
  | none => exact ⟨fun _ => rfl, fun _ => rfl⟩
  | some model =>
    have named : model.family.name ≠ "unknown" := by
      cases model.family <;> decide
    exact ⟨fun same => absurd same named, nofun⟩

/-- The confidence in two models that explain something definite is the smaller of what
they explain, moved into the unit interval. -/
theorem confidenceOf_spec {base other : Model Float} (definite : base.rSquare.isFinite = true)
    (definite' : other.rSquare.isFinite = true) :
    ∃ least, (least = base.rSquare ∨ least = other.rSquare) ∧ least ≤ base.rSquare ∧
      least ≤ other.rSquare ∧ confidenceOf base other = Scalar.clamp 0.0 1.0 least ∧
      0.0 ≤ confidenceOf base other ∧ confidenceOf base other ≤ 1.0 := by
  have number := Double.not_isNaN_of_isFinite definite
  have number' := Double.not_isNaN_of_isFinite definite'
  obtain ⟨chosen, below, below'⟩ := Double.smaller_spec number number'
  obtain ⟨above, within⟩ := Double.clamp_mem (Double.not_isNaN_of_le below).1
  exact ⟨_, chosen, below, below', rfl, above, within⟩

/-- The parts of a report agree. It names its method and its group. A rate is there exactly
if something is known and the method measures changes. A confidence is there exactly if
something is known and the method goes by models; it is then the smaller coefficient of
determination of the two best models, moved into the unit interval. The values of a method
that goes by models are the families of the best models, and where a side has none nothing
is known. -/
theorem compare_coherent [Tally Float] {name : String} {params : Keyed Float}
    {method : Method Float} (built : build name params = .ok method) (baseline target : Profile Float) (uid : String) :
    let report := method.compare baseline target uid
    (MethodName.ofText? name = some method.name ∧ report.method = method.name.full ∧
      report.location = uid) ∧
    (report.rate.isSome = true ↔ report.kind ≠ .unknown ∧ method.name ≠ .modelOrder) ∧
    (report.confidence.isSome = true ↔ report.kind ≠ .unknown ∧ method.name ≠ .averageAmount) ∧
    report.confidenceType = report.confidence.map (fun _ => "r_square") ∧
    (∀ confidence, report.confidence = some confidence →
      ∃ base other least, baseline.bestModel? uid = some base ∧ target.bestModel? uid = some other ∧
        (least = base.rSquare ∨ least = other.rSquare) ∧ least ≤ base.rSquare ∧
        least ≤ other.rSquare ∧ confidence = Scalar.clamp 0.0 1.0 least ∧
        0.0 ≤ confidence ∧ confidence ≤ 1.0 ∧ confidence.isNaN = false) ∧
    (method.name ≠ .averageAmount →
      report.baselineValue = familyName (baseline.bestModel? uid) ∧
      report.targetValue = familyName (target.bestModel? uid) ∧
      (report.baselineValue = "unknown" ↔ baseline.bestModel? uid = none) ∧
      (report.targetValue = "unknown" ↔ target.bestModel? uid = none) ∧
      (report.baselineValue = "unknown" ∨ report.targetValue = "unknown" →
        report.kind = .unknown)) := by
  intro report
  have known := ofText?_of_build built
  obtain ⟨named, located⟩ := method.compare_labels baseline target uid
  refine ⟨⟨known, named, located⟩, ?_⟩
  by_cases byAmounts : method.name = .averageAmount
  · cases method with
    | averageAmount degradation optimization =>
      obtain ⟨unsure, untyped, rated⟩ :=
        @compareAverages_tells Float _ baseline target uid _ _ degradation optimization
      change report.confidence = none at unsure
      change report.confidenceType = none at untyped
      rw [unsure, untyped]
      refine ⟨rated.trans ⟨fun decided => ⟨decided, nofun⟩, fun decided => decided.1⟩, ?_, rfl,
        nofun, fun onModels => absurd byAmounts onModels⟩
      exact ⟨nofun, fun ⟨_, onModels⟩ => absurd byAmounts onModels⟩
    | _ => cases byAmounts
  · have tells : TellsModels _ (baseline.bestModel? uid) (target.bestModel? uid) report :=
      compare_tells byAmounts
    obtain ⟨confident, typed, spec⟩ := tells.confidence_spec
    have noBaseline : report.baselineValue = "unknown" ↔ baseline.bestModel? uid = none := by
      rw [tells.baseline, familyName_eq_unknown]
    have noTarget : report.targetValue = "unknown" ↔ target.bestModel? uid = none := by
      rw [tells.target, familyName_eq_unknown]
    refine ⟨by rw [tells.rate_iff, decide_eq_true_iff],
      confident.trans ⟨fun known => ⟨known, byAmounts⟩, fun known => known.1⟩, typed, ?_,
      fun _ => ⟨tells.baseline, tells.target, noBaseline, noTarget, fun missing => ?_⟩⟩
    · intro confidence told
      obtain ⟨base, other, first, second, rfl⟩ := spec confidence told
      obtain ⟨least, chosen, below, below', clamped, above, within⟩ :=
        confidenceOf_spec (Model.definite_of_selectBest? first)
          (Model.definite_of_selectBest? second)
      exact ⟨base, other, least, first, second, chosen, below, below', clamped, above, within,
        (Double.not_isNaN_of_le above).2⟩
    · rw [noBaseline, noTarget] at missing
      exact tells.unknown_of_none missing

/-- A profile that carries a line through the origin, which explains this much. -/
def straight (slope rSquare : Float) : Profile Float :=
  (Profile.blank ⟨"time", "./bin", "", "", []⟩ "time").withModels "main"
    [⟨.linear, [0.0, slope], rSquare, 0.0, 1.0⟩]

open scoped Lanes

/-- Stored models may explain more than everything; the confidence in them may not. -/
theorem compare_coherent_straight :
    build "int" .empty = .ok (integral (0.10 : Float) usualChange) ∧
      ∃ confidence, ((integral (0.10 : Float) usualChange).compare (straight 1.0 1.5)
          (straight 2.0 1.25) "main").confidence = some confidence ∧
        0.0 ≤ confidence ∧ confidence ≤ 1.0 := by
  have built : build "int" .empty = .ok (integral (0.10 : Float) usualChange) := rfl
  have degraded : ((integral (0.10 : Float) usualChange).compare (straight 1.0 1.5)
      (straight 2.0 1.25) "main").kind = .degradation := by decide +kernel
  obtain ⟨_, _, confident, _, spec, _⟩ :=
    compare_coherent built (straight 1.0 1.5) (straight 2.0 1.25) "main"
  obtain ⟨confidence, told⟩ :=
    Option.isSome_iff_exists.mp (confident.mpr ⟨by rw [degraded]; decide, by decide⟩)
  obtain ⟨_, _, _, _, _, _, _, _, _, above, within, _⟩ := spec confidence told
  exact ⟨built, confidence, told, above, within⟩

end Method

end ProfileDrift
