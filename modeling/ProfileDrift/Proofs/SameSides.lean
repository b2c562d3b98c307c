import ProfileDrift.Check.Pair
import ProfileDrift.Decimal.Notation
import ProfileDrift.Proofs.DocumentText
import ProfileDrift.Proofs.FitOutcome
import ProfileDrift.Proofs.KeyedGroups
import ProfileDrift.Scalar.Blocks

namespace ProfileDrift

/-- Every model that a profile carries has finite coefficients only. -/
def Profile.FiniteModels {α : Type} [Scalar α] (profile : Profile α) : Prop :=
  ∀ uid models, profile.models.get? uid = some models →
    ∀ model ∈ models, ∀ value ∈ model.coefficients, Scalar.isFinite value = true

/-- A kind that is only shown to a reader who wants every line. -/
def ChangeKind.IsQuiet (kind : ChangeKind) : Prop := kind = .noChange ∨ kind = .unknown

/-- The profile of a document carries models of the document only. -/
theorem Document.FiniteModels.profile {document : Document Float} (finite : document.FiniteModels) :
    document.profile.FiniteModels := by
  intro uid models present model member
  change document.storedModels.get? uid = some models at present
  unfold storedModels at present
  rw [Keyed.get?_group] at present
  split at present
  · cases present
  · cases present
    obtain ⟨entry, inside, rfl⟩ := List.mem_map.mp member
    obtain ⟨record, kept, rfl⟩ := List.mem_map.mp (List.mem_filter.mp inside).1
    exact finite record (List.mem_filter.mp kept).1

section Best

variable {α : Type} [Scalar α]

theorem Model.mem_of_foldl_better {models : List (Model α)} {best : Option (Model α)}
    {model : Model α} (found : models.foldl better best = some model) :
    best = some model ∨ model ∈ models := by
  induction models generalizing best with
  | nil => exact .inl found
  | cons first rest ih =>
    rcases ih found with chosen | later
    · unfold better at chosen
      split at chosen
      · split at chosen
        · cases chosen
          exact .inr (List.mem_cons_self ..)
        · split at chosen
          · cases chosen
            exact .inr (List.mem_cons_self ..)
          · exact .inl chosen
      · exact .inl chosen
    · exact .inr (List.mem_cons_of_mem _ later)

/-- The best model is one of the models to choose from. -/
theorem Model.mem_of_selectBest? {models : List (Model α)} {model : Model α}
    (found : selectBest? models = some model) : model ∈ models :=
  (mem_of_foldl_better found).resolve_left (nomatch ·)

/-- The best model of a group has finite coefficients, whether it is stored or fitted. -/
theorem Profile.FiniteModels.bestModel {profile : Profile α} (finite : profile.FiniteModels)
    {uid : String} {model : Model α} (best : profile.bestModel? uid = some model) :
    ∀ value ∈ model.coefficients, Scalar.isFinite value = true := by
  have member := Model.mem_of_selectBest? best
  unfold modelsOf at member
  cases stored : profile.storedModels? uid with
  | none =>
    rw [stored] at member
    exact Model.finite_of_mem_fitAll member
  | some models =>
    rw [stored] at member
    obtain ⟨present, _⟩ := Option.filter_eq_some_iff.mp stored
    exact finite uid models present model member

end Best

namespace Method

section Built

variable {α : Type} [Scalar α]

/-- What the thresholds of a built method leave for equal sides: a ratio of one lies
between the thresholds of a ratio, and no difference is within any tolerance. -/
def AcceptsEqual : Method α → Prop
  | averageAmount degradation optimization =>
    (1.0 : α) < degradation ∧ optimization < 1.0
  | integral noChange _ => (0.0 : α) ≤ noChange
  | _ => True

theorem acceptsEqual_of_buildAverageAmount {params : List (String × α)} {method : Method α}
    (built : buildAverageAmount params = .ok method) : method.AcceptsEqual := by
  obtain ⟨⟨degradation, optimization⟩, _, built⟩ := bind_eq_ok built
  dsimp only at built
  split at built
  · cases built
  · rename_i within
    split at built
    · cases built
    · rename_i above
      cases built
      simp only [Bool.not_eq_true', decide_eq_false_iff_not, Decidable.not_not] at within above
      exact ⟨above.1, within.2⟩

theorem acceptsEqual_of_buildIntegral {params : List (String × α)} {method : Method α}
    (built : buildIntegral params = .ok method) : method.AcceptsEqual := by
  obtain ⟨⟨noChange, change⟩, _, built⟩ := bind_eq_ok built
  dsimp only at built
  split at built
  · cases built
  · rename_i nonnegative
    split at built
    · cases built
    · cases built
      simp only [Bool.not_eq_true', decide_eq_false_iff_not, Decidable.not_not] at nonnegative
      exact nonnegative.1

theorem acceptsEqual_of_build {name : String} {params : Keyed α} {method : Method α}
    (built : build name params = .ok method) : method.AcceptsEqual := by
  unfold build at built
  split at built
  · rename_i known _
    cases known with
    | averageAmount => exact acceptsEqual_of_buildAverageAmount built
    | integral => exact acceptsEqual_of_buildIntegral built
    | modelOrder =>
      obtain ⟨confidence, _, made⟩ := bind_eq_ok built
      cases made
      trivial
    | fastCheck | linearRegression =>
      obtain ⟨change, _, made⟩ := map_eq_ok built
      cases made
      trivial
  · cases built

end Built

variable {profile : Profile Float} {uid : String}

theorem compareAverages_same [Tally Float] {degradation optimization : Float} (above : 1.0 < degradation)
    (below : optimization < 1.0) :
    (compareAverages degradation optimization profile profile uid).kind.IsQuiet := by
  unfold compareAverages
  cases averageAmount? profile uid with
  | none => exact .inr rfl
  | some mean =>
    dsimp only
    split
    · exact .inr rfl
    · rename_i regular
      simp only [Bool.or_eq_true, Bool.not_eq_true', not_or, Bool.not_eq_true, Bool.not_eq_false] at regular
      obtain ⟨⟨nonzero, finite⟩, _⟩ := regular
      have one : mean / mean = 1.0 := Double.div_self_eq_one finite nonzero
      refine .inl ?_
      change ratioChange degradation optimization (mean / mean) = _
      rw [one, ratioChange, if_neg (Double.not_le_of_lt above), if_neg (Double.not_le_of_lt below)]

theorem compareOrder_same {confidence : Float} :
    (compareOrder confidence profile profile uid).kind.IsQuiet := by
  unfold compareOrder reportOnModels
  cases profile.bestModel? uid with
  | none => exact .inr rfl
  | some model => exact .inl (if_pos rfl)

theorem compareAreas_same {noChange change : Float} (nonnegative : 0.0 ≤ noChange) :
    (compareAreas noChange change profile profile uid).kind.IsQuiet := by
  unfold compareAreas reportOnModels
  cases profile.bestModel? uid with
  | none => exact .inr rfl
  | some model =>
    dsimp only
    split
    · exact .inr rfl
    · rename_i start stop _
      split
      · exact .inr rfl
      · rename_i regular
        simp only [Bool.or_eq_true, Bool.not_eq_true', not_or, Bool.not_eq_true,
          Bool.not_eq_false] at regular
        obtain ⟨⟨nonzero, finite⟩, _⟩ := regular
        refine .inl ?_
        change areaChange noChange change ((model.integral start stop - model.integral start stop) /
          (model.integral start stop).abs) = _
        rw [Double.sub_self_eq_zero finite, Double.zero_div_abs finite nonzero]
        exact if_pos nonnegative

theorem models_of_sample? [Tally Float] {base other : Model Float} {difference : CurveDifference Float}
    (sampled : CurveDifference.sample? base other = some difference) :
    difference.baseline = base ∧ difference.target = other := by
  unfold CurveDifference.sample? at sampled
  split at sampled
  · cases sampled
  · dsimp only at sampled
    split at sampled
    · cases sampled
    · cases sampled
      exact ⟨rfl, rfl⟩

/-- A curve has not changed against itself: each coefficient differs by nothing, which is
within any tolerance. -/
theorem isUnchanged_self {difference : CurveDifference Float} {model : Model Float}
    (baseline : difference.baseline = model) (target : difference.target = model)
    (finite : ∀ value ∈ model.coefficients, Scalar.isFinite value = true) :
    difference.isUnchanged = true := by
  unfold CurveDifference.isUnchanged
  rw [baseline, target, Bool.and_eq_true, List.all_eq_true]
  refine ⟨decide_eq_true rfl, fun (before, after) member => decide_eq_true ?_⟩
  rw [List.zip_eq_zipWith, List.zipWith_self, List.mem_map] at member
  obtain ⟨value, inside, same⟩ := member
  obtain ⟨rfl, rfl⟩ := Prod.mk.inj same
  change (value - value).abs ≤ 0.05 * value.abs
  rw [Double.sub_self_eq_zero (finite value inside)]
  exact Double.zero_le_mul_abs (finite value inside)

theorem compareCurves_same [Tally Float] (finite : profile.FiniteModels) (name : MethodName)
    (threshold : Float) (shape : CurveDifference Float → String) :
    (compareCurves name threshold shape profile profile uid).kind.IsQuiet := by
  unfold compareCurves reportOnModels
  cases best : profile.bestModel? uid with
  | none => exact .inr rfl
  | some model =>
    dsimp only
    split
    · exact .inr rfl
    · rename_i difference sampled
      obtain ⟨baseline, target⟩ := models_of_sample? sampled
      exact .inl (if_pos (isUnchanged_self baseline target (finite.bestModel best)))

/-- No method that can be built finds a change between a profile and itself. -/
theorem compare_same [Tally Float] {method : Method Float} (accepts : method.AcceptsEqual)
    (finite : profile.FiniteModels) : (method.compare profile profile uid).kind.IsQuiet := by
  cases method with
  | averageAmount degradation optimization => exact compareAverages_same accepts.1 accepts.2
  | modelOrder confidence => exact compareOrder_same
  | fastCheck change => exact compareCurves_same finite _ _ _
  | integral noChange change => exact compareAreas_same accepts
  | linearRegression change => exact compareCurves_same finite _ _ _

end Method

section Rules

variable {α : Type} [Scalar α]

theorem Rule.built_of_foldlM {rules : List (Rule α)} {start methods : List (Method α)}
    (made : rules.foldlM (fun methods rule => (rule.build).map (addMethod methods)) start =
      .ok methods) :
    ∀ method ∈ methods, method ∈ start ∨ ∃ rule ∈ rules, rule.build = .ok method := by
  induction rules generalizing start with
  | nil =>
    cases made
    exact fun method member => .inl member
  | cons rule rest ih =>
    rw [List.foldlM_cons] at made
    obtain ⟨added, step, made⟩ := bind_eq_ok made
    obtain ⟨built, ok, rfl⟩ := map_eq_ok step
    intro method member
    rcases ih made method member with before | ⟨later, inside, yields⟩
    · unfold addMethod at before
      split at before
      · exact .inl before
      · rcases List.mem_append.mp before with earlier | here
        · exact .inl earlier
        · rw [List.mem_singleton.mp here]
          exact .inr ⟨rule, List.mem_cons_self .., ok⟩
    · exact .inr ⟨later, List.mem_cons_of_mem _ inside, yields⟩

/-- Every method that settings name for a profile has been built by one of the rules. -/
theorem Rule.built_of_methods {rules : List (Rule α)} {methods : List (Method α)}
    (made : Rule.methods rules = .ok methods) :
    ∀ method ∈ methods, ∃ rule ∈ rules, rule.build = .ok method := fun method member =>
  (built_of_foldlM made method member).resolve_left List.not_mem_nil

end Rules

theorem Settings.quiet_of_checkPair [Tally Float] {settings : Settings Float} {profile : Profile Float}
    {reports : List (ChangeReport Float)} (finite : profile.FiniteModels)
    (checked : settings.checkPair profile profile = .ok reports) :
    ∀ report ∈ reports, report.kind.IsQuiet := by
  unfold checkPair at checked
  split at checked
  · rename_i methods made
    cases checked
    intro report member
    obtain ⟨method, inside, here⟩ := List.mem_flatMap.mp member
    obtain ⟨uid, _, rfl⟩ := List.mem_map.mp here
    obtain ⟨rule, _, built⟩ := Rule.built_of_methods made method inside
    exact Method.compare_same (Method.acceptsEqual_of_build built) finite
  · cases checked

theorem ChangeKind.IsQuiet.isShown {kind : ChangeKind} (quiet : kind.IsQuiet) :
    kind.isShown false = false := by
  rcases quiet with rfl | rfl <;> rfl

theorem ChangeReport.render_quiet {α : Type} [Hundredths α] {reports : List (ChangeReport α)}
    (quiet : ∀ report ∈ reports, report.kind.IsQuiet) :
    ChangeReport.render false reports = "" := by
  have none : reports.filter (·.kind.isShown false) = [] := by
    refine List.filter_eq_nil_iff.mpr fun report member => ?_
    rw [(quiet report member).isShown]
    exact Bool.false_ne_true
  rw [render, none]
  rfl

/-- Between a profile and itself no change is found, by any method that can be built and
under any settings, so a reader who does not want every line reads nothing. It takes
finite coefficients in the models that the profile carries, and a profile that is read
from a text has no others. -/
theorem Settings.checkPair_same [Json.NumberReader] [Tally Float] :
    (∀ text document, Document.ofText text = .ok document → document.profile.FiniteModels) ∧
    ∀ profile : Profile Float, profile.FiniteModels →
      (∀ name params method, Method.build name params = .ok method → ∀ uid,
        (method.compare profile profile uid).kind = .noChange ∨
          (method.compare profile profile uid).kind = .unknown) ∧
      ∀ (settings : Settings Float) reports, settings.checkPair profile profile = .ok reports →
        (∀ report ∈ reports, report.kind.isShown false = false) ∧
          ChangeReport.render false reports = "" := by
  refine ⟨fun text document read => (Document.finite_of_ofText read).profile,
    fun profile finite => ⟨fun name params method built uid => ?_,
      fun settings reports checked => ?_⟩⟩
  · exact Method.compare_same (Method.acceptsEqual_of_build built) finite
  · have quiet := quiet_of_checkPair finite checked
    exact ⟨fun report member => (quiet report member).isShown, ChangeReport.render_quiet quiet⟩

/-- A document with one observation and one fitted line. -/
def lineText : String := "[[\"t\"],[\"c\"],[],[[\"u\",1,2]],[[\"u\",\"linear\",[1,0.5],1,0,1]]]"

open scoped Lanes Json.Stepwise in
theorem Settings.checkPair_same_line :
    ∃ document, Document.ofText lineText = .ok document ∧ document.profile.FiniteModels ∧
      Method.build "fast_check" .empty = .ok (Method.fastCheck (0.25 : Float)) ∧
      (((Method.fastCheck 0.25).compare document.profile document.profile "u").kind = .noChange ∨
        ((Method.fastCheck 0.25).compare document.profile document.profile "u").kind = .unknown) ∧
      ∃ reports, Settings.default.checkPair document.profile document.profile = .ok reports ∧
        ChangeReport.render false reports = "" := by
  have checked : (Document.ofText lineText).toOption.any (fun document =>
      (Settings.default.checkPair document.profile document.profile).toBool) = true := by
    decide +kernel
  cases read : Document.ofText lineText with
  | error problem => rw [read] at checked; cases checked
  | ok document =>
    rw [read] at checked
    change (Settings.default.checkPair document.profile document.profile).toBool = true at checked
    cases made : Settings.default.checkPair document.profile document.profile with
    | error error => rw [made] at checked; cases checked
    | ok reports =>
      have built : Method.build "fast_check" .empty = .ok (Method.fastCheck (0.25 : Float)) := rfl
      have finite := Settings.checkPair_same.1 lineText document read
      obtain ⟨compared, paired⟩ := Settings.checkPair_same.2 document.profile finite
      exact ⟨document, rfl, finite, built, compared _ _ _ built "u", reports, made,
        (paired .default reports made).2⟩

end ProfileDrift
