import ProfileDrift.Proofs.DecidedReport
import ProfileDrift.Proofs.DocumentText
import ProfileDrift.Proofs.LaneSums
import ProfileDrift.Proofs.ReportText
import ProfileDrift.Proofs.SameSides
import ProfileDrift.Proofs.SingleRange

namespace ProfileDrift

namespace CurveDifference

theorem isFinite_of_mem_ratios {found : List (Observation Float × Float)} {ratio : Float}
    (member : ratio ∈ ratios found) : ratio.isFinite = true := by
  obtain ⟨⟨point, height⟩, _, kept⟩ := List.mem_filterMap.mp member
  dsimp only at kept
  split at kept
  · rename_i finite
    cases kept
    exact finite
  · cases kept

end CurveDifference

namespace Method

variable [Tally Float] {baseline target : Profile Float} {uid : String}
  {report : ChangeReport Float}

/-- A mean amount is a single. -/
theorem single_of_averageAmount? [LawfulTally] {profile : Profile Float} {amount : Float}
    (found : averageAmount? profile uid = some amount) (finite : amount.isFinite = true) :
    Double.Single amount.toModel.unpack := by
  unfold averageAmount? at found
  split at found
  · cases found
  · obtain ⟨value, mean⟩ := LawfulTally.mean_single
      ((profile.observations uid).map fun point => Scalar.toSingle point.y)
    cases found
    rw [mean] at finite ⊢
    exact Double.single_of_isFinite finite

/-- The change of two finite areas, relative to the one of the baseline. It is a number, but it
may exceed the doubles. -/
def IsAreaRate (baseline target : Profile Float) (uid : String) (rate : Float) : Prop :=
  rate.isNaN = false ∧ ∃ base other start stop,
    baseline.bestModel? uid = some base ∧ target.bestModel? uid = some other ∧
    sharedRange? base other = some (start, stop) ∧
    (base.integral start stop).isFinite = true ∧ (other.integral start stop).isFinite = true ∧
    rate = (other.integral start stop - base.integral start stop) / (base.integral start stop).abs

/-- The mean of finite ratios, which may exceed the singles where their sum does. -/
def IsCurveRate (baseline target : Profile Float) (uid : String) (rate : Float) : Prop :=
  ∃ base other start stop, baseline.bestModel? uid = some base ∧
    target.bestModel? uid = some other ∧ sharedRange? base other = some (start, stop) ∧
    let ratios := CurveDifference.ratios
      (CurveDifference.samples base other (CurveDifference.sampleSizes start stop))
    (∀ ratio ∈ ratios, ratio.isFinite = true) ∧
      rate = if ratios.isEmpty then 0.0 else Tally.mean ratios

/-- What the numbers of a report are, by the method that made it. -/
structure Numbers (name : MethodName) (baseline target : Profile Float) (uid : String)
    (report : ChangeReport Float) : Prop where
  confidence : ∀ confidence, report.confidence = some confidence → confidence.isFinite = true
  order : name = .modelOrder → report.rate = none
  amounts : name = .averageAmount → ∀ rate, report.rate = some rate → rate.isFinite = true
  areas : name = .integral → ∀ rate, report.rate = some rate → IsAreaRate baseline target uid rate
  curves : name = .fastCheck ∨ name = .linearRegression → ∀ rate, report.rate = some rate →
    IsCurveRate baseline target uid rate

theorem known_of_rate {method : Method Float} {rate : Float}
    (rated : (method.compare baseline target uid).rate = some rate) :
    (method.compare baseline target uid).kind ≠ .unknown := by
  have present : (method.compare baseline target uid).rate.isSome = true := by
    rw [rated]
    rfl
  by_cases byAmounts : method.name = .averageAmount
  · cases method with
    | averageAmount degradation optimization =>
      exact (compareAverages_tells degradation optimization).2.2.mp present
    | _ => cases byAmounts
  · exact ((compare_tells byAmounts).rate_iff.mp present).1

theorem isFinite_of_confidence {method : Method Float} {confidence : Float}
    (told : (method.compare baseline target uid).confidence = some confidence) :
    confidence.isFinite = true := by
  by_cases byAmounts : method.name = .averageAmount
  · cases method with
    | averageAmount degradation optimization =>
      cases (compareAverages_tells degradation optimization).1.symm.trans told
    | _ => cases byAmounts
  · obtain ⟨-, -, spec⟩ := (compare_tells byAmounts).confidence_spec
    obtain ⟨base, other, first, second, rfl⟩ := spec confidence told
    obtain ⟨least, -, -, -, -, above, within⟩ :=
      confidenceOf_spec (Model.definite_of_selectBest? first) (Model.definite_of_selectBest? second)
    exact Double.isFinite_of_between above within (by decide +kernel) (by decide +kernel)

theorem isFinite_of_compareAverages [LawfulTally] {degradation optimization rate : Float}
    (decided : (compareAverages degradation optimization baseline target uid).kind ≠ .unknown)
    (rated : (compareAverages degradation optimization baseline target uid).rate = some rate) :
    rate.isFinite = true := by
  obtain ⟨before, after, found, found', nonzero, finite, finite', -, told⟩ :=
    compareAverages_decided rfl decided
  cases told.symm.trans rated
  exact Double.isFinite_div_single (single_of_averageAmount? found' finite')
    (single_of_averageAmount? found finite) nonzero

omit [Tally Float] in
theorem isAreaRate_of_compareAreas {noChange change rate : Float}
    (decided : (compareAreas noChange change baseline target uid).kind ≠ .unknown)
    (rated : (compareAreas noChange change baseline target uid).rate = some rate) :
    IsAreaRate baseline target uid rate := by
  obtain ⟨base, other, start, stop, found, found', shared, nonzero, finite, finite', -, told⟩ :=
    compareAreas_decided rfl decided
  cases told.symm.trans rated
  exact ⟨Double.isNaN_div_abs (Double.isNaN_sub finite' finite) finite nonzero,
    base, other, start, stop, found, found', shared, finite, finite', rfl⟩

theorem isCurveRate_of_compareCurves {name : MethodName} {change rate : Float}
    {shape : CurveDifference Float → String}
    (decided : (compareCurves name change shape baseline target uid).kind ≠ .unknown)
    (rated : (compareCurves name change shape baseline target uid).rate = some rate) :
    IsCurveRate baseline target uid rate := by
  obtain ⟨base, other, difference, found, found', sampled, -, told⟩ :=
    compareCurves_decided rfl decided
  obtain ⟨start, stop, shared, -, mean⟩ := CurveDifference.exists_range_of_sample? sampled
  cases told.symm.trans rated
  exact ⟨base, other, start, stop, found, found', shared,
    fun ratio member => CurveDifference.isFinite_of_mem_ratios member, mean⟩

theorem numbers_compare [LawfulTally] (method : Method Float) (baseline target : Profile Float)
    (uid : String) :
    Numbers method.name baseline target uid (method.compare baseline target uid) := by
  have confident (confidence : Float)
      (told : (method.compare baseline target uid).confidence = some confidence) :
      confidence.isFinite = true := isFinite_of_confidence told
  have known (rate : Float) (rated : (method.compare baseline target uid).rate = some rate) :
      (method.compare baseline target uid).kind ≠ .unknown := known_of_rate rated
  cases method with
  | averageAmount degradation optimization =>
    exact ⟨confident, nofun,
      fun _ rate rated => isFinite_of_compareAverages (known rate rated) rated, nofun,
      by rintro (same | same) <;> cases same⟩
  | modelOrder threshold =>
    refine ⟨confident, fun _ => ?_, nofun, nofun, by rintro (same | same) <;> cases same⟩
    have tells := @compareOrder_tells Float _ baseline target uid threshold
    cases rated : (compareOrder threshold baseline target uid).rate with
    | none => exact rated
    | some rate => cases (tells.rate_iff.mp (by rw [rated]; rfl)).2
  | integral noChange change =>
    exact ⟨confident, nofun, nofun,
      fun _ rate rated => isAreaRate_of_compareAreas (known rate rated) rated,
      by rintro (same | same) <;> cases same⟩
  | fastCheck change | linearRegression change =>
    exact ⟨confident, nofun, nofun, nofun,
      fun _ rate rated => isCurveRate_of_compareCurves (known rate rated) rated⟩

end Method

section Told

open Json (NumberReader Value)

namespace ChangeReport

/-- With a finite confidence it is up to the rate whether the text tells the report. -/
theorem map_told_eq_iff_rates {reports : List (ChangeReport Float)}
    (confident : ∀ report ∈ reports, ∀ confidence, report.confidence = some confidence →
      confidence.isFinite = true) :
    reports.map told = reports ↔
      ∀ report ∈ reports, ∀ rate, report.rate = some rate → rate.isFinite = true := by
  rw [map_told_eq_iff]
  refine forall₂_congr fun report member => ?_
  rw [told_eq_iff]
  exact and_iff_right (confident report member)

/-- With a finite confidence it is up to the rate and the reader whether the report is read
back. -/
theorem mapM_reread_eq_self_iff_numbers [NumberReader] {reports : List (ChangeReport Float)}
    (confident : ∀ report ∈ reports, ∀ confidence, report.confidence = some confidence →
      confidence.isFinite = true) :
    reports.mapM (·.reread) = .ok reports ↔ ∀ report ∈ reports,
      (∀ confidence, report.confidence = some confidence →
        NumberReader.reread? (.decimal confidence) = some (.decimal confidence)) ∧
      ∀ rate, report.rate = some rate →
        rate.isFinite = true ∧ NumberReader.reread? (.decimal rate) = some (.decimal rate) := by
  rw [mapM_reread_eq_self_iff]
  refine forall₂_congr fun report member => ?_
  rw [reread_eq_self_iff, Decode.reread_eq_self_iff, Decode.reread_eq_self_iff]
  refine and_congr_left fun _ => forall₂_congr fun confidence given => ?_
  exact and_iff_right (confident report member confidence given)

end ChangeReport

namespace Settings

theorem exists_compare_of_checkPair [Tally Float] {settings : Settings Float}
    {baseline target : Profile Float} {reports : List (ChangeReport Float)}
    (checked : settings.checkPair baseline target = .ok reports) :
    ∀ report ∈ reports, ∃ (method : Method Float) (uid : String),
      report = method.compare baseline target uid := by
  unfold checkPair at checked
  split at checked
  · cases checked
    intro report member
    obtain ⟨method, _, here⟩ := List.mem_flatMap.mp member
    obtain ⟨uid, _, rfl⟩ := List.mem_map.mp here
    exact ⟨method, uid, rfl⟩
  · cases checked

/-- The numbers of a report are finite, but for a rate that comes from areas or from curves. The
reports on a pair are read back from their text, compact or pretty, as they were written exactly
if every rate is finite and the reader reads every number as the double that was printed. A
reader that does this for all doubles leaves out the rates that are not finite, for which the
text has null, and no other number. -/
theorem checkPair_told [NumberReader] [Tally Float] [LawfulTally]
    (baseline target : Profile Float) :
    (∀ (method : Method Float) uid,
      Method.Numbers method.name baseline target uid (method.compare baseline target uid)) ∧
    ∀ (settings : Settings Float) reports, settings.checkPair baseline target = .ok reports →
      (∀ report ∈ reports, ∃ name, report.method = MethodName.full name ∧
        Method.Numbers name baseline target report.location report) ∧
      Json.decodeText (Decode.list ChangeReport.shape.decode)
        (Value.array (reports.map (·.toJson))).compact = reports.mapM (·.reread) ∧
      (∀ blanks, Json.AllBlank blanks →
        Json.decodeText (Decode.list ChangeReport.shape.decode)
          ((Value.array (reports.map (·.toJson))).pretty ++ String.ofList blanks) =
            reports.mapM (·.reread)) ∧
      (reports.mapM (·.reread) = .ok reports ↔ ∀ report ∈ reports,
        (∀ confidence, report.confidence = some confidence →
          NumberReader.reread? (.decimal confidence) = some (.decimal confidence)) ∧
        ∀ rate, report.rate = some rate →
          rate.isFinite = true ∧ NumberReader.reread? (.decimal rate) = some (.decimal rate)) ∧
      ∀ [Json.LawfulNumberReader],
        reports.mapM (·.reread) = .ok (reports.map (·.told)) ∧
        (reports.map (·.told) = reports ↔
          ∀ report ∈ reports, ∀ rate, report.rate = some rate → rate.isFinite = true) := by
  refine ⟨fun method uid => method.numbers_compare baseline target uid,
    fun settings reports checked => ?_⟩
  have numbers : ∀ report ∈ reports, ∃ name, report.method = MethodName.full name ∧
      Method.Numbers name baseline target report.location report := by
    intro report member
    obtain ⟨method, uid, rfl⟩ := exists_compare_of_checkPair checked report member
    obtain ⟨named, located⟩ := method.compare_labels baseline target uid
    refine ⟨method.name, named, ?_⟩
    rw [located]
    exact method.numbers_compare baseline target uid
  have confident : ∀ report ∈ reports, ∀ confidence, report.confidence = some confidence →
      confidence.isFinite = true := by
    intro report member
    obtain ⟨_, _, told⟩ := numbers report member
    exact told.confidence
  exact ⟨numbers, ChangeReport.decodeText_compact reports,
    fun blanks blank => ChangeReport.decodeText_pretty reports blank,
    ChangeReport.mapM_reread_eq_self_iff_numbers confident,
    fun {_} => ⟨ChangeReport.mapM_reread_eq reports,
      ChangeReport.map_told_eq_iff_rates confident⟩⟩

/-- A document with one group, whose amounts stay at one height. -/
def level (height : Float) : Document Float where
  header := ⟨"time", "./bin", "", "", .empty⟩
  collector := .plain "time"
  postprocessors := []
  resources := [⟨"main", 1.0, 2.0⟩]
  models := [⟨"main", .constant, [height], 1.0, 0.0, 1.0⟩]

theorem isWritable_level {height : Float} (finite : height.isFinite = true) :
    (level height).IsWritable := by
  have one : (1.0 : Float).isFinite = true := by decide +kernel
  have two : (2.0 : Float).isFinite = true := by decide +kernel
  exact
    { collector := fun value member => absurd member List.not_mem_nil
      postprocessors := fun step member => absurd member List.not_mem_nil
      resources := List.forall_mem_singleton.mpr ⟨one, two⟩
      models := List.forall_mem_singleton.mpr
        ⟨List.forall_mem_singleton.mpr finite, one, isFinite_zero, one⟩ }

def areas : Method Float := .integral 0.10 Method.usualChange

def byAreas : Settings Float := ⟨.all, [.always "int"]⟩

theorem checkPair_byAreas [Tally Float] (height height' : Float) :
    byAreas.checkPair (level height).profile (level height').profile =
      .ok [areas.compare (level height).profile (level height').profile "main"] := rfl

open scoped Lanes Json.Nearest

theorem checkPair_told_level :
    ∃ reports, byAreas.checkPair (level 1.0).profile (level 3.0).profile = .ok reports ∧
      Json.decodeText (Decode.list ChangeReport.shape.decode)
        (Value.array (reports.map (·.toJson))).compact = .ok reports := by
  have checked := checkPair_byAreas 1.0 3.0
  obtain ⟨-, text, -, -, lawful⟩ :=
    (checkPair_told (level 1.0).profile (level 3.0).profile).2 _ _ checked
  obtain ⟨read, whole⟩ := lawful
  refine ⟨_, checked, text.trans (read.trans (congrArg Except.ok (whole.mpr ?_)))⟩
  intro report member rate rated
  have measured : (areas.compare (level 1.0).profile (level 3.0).profile "main").rate =
      some 2.0 := by decide +kernel
  rw [List.mem_singleton.mp member, measured] at rated
  cases rated
  decide +kernel

/-- The documents of two levels that lie far apart are read from their texts as they are. The
report on them has an infinite rate, for which its text has null, and no rate is read back. -/
theorem infinite_rate_level :
    Document.ofText (level 1e-300).toJson.compact = .ok (level 1e-300) ∧
    Document.ofText (level 1e300).toJson.compact = .ok (level 1e300) ∧
    ∃ report rate,
      byAreas.checkPair (level 1e-300).profile (level 1e300).profile = .ok [report] ∧
      report.rate = some rate ∧ rate.isFinite = false ∧
      Json.decodeText (Decode.list ChangeReport.shape.decode)
        (Value.array [report.toJson]).compact = .ok [{ report with rate := none }] := by
  obtain ⟨report, report_eq⟩ : ∃ report, report =
      areas.compare (level 1e-300).profile (level 1e300).profile "main" := ⟨_, rfl⟩
  have rated : report.rate = some (1.0 / 0.0) := by
    rw [report_eq]
    decide +kernel
  have confident : report.confidence.bind written = report.confidence :=
    ChangeReport.bind_written_eq_self_iff.mpr fun confidence told =>
      Method.isFinite_of_confidence (report_eq ▸ told)
  have told : report.told = { report with rate := none } := by
    have unrated : (some (1.0 / 0.0)).bind written = none := by decide +kernel
    rw [ChangeReport.told, confident, rated, unrated]
  refine ⟨(isWritable_level (by decide +kernel)).ofText_toJson,
    (isWritable_level (by decide +kernel)).ofText_toJson, report, 1.0 / 0.0, ?_, rated,
    by decide +kernel, ?_⟩
  · rw [report_eq]
    exact checkPair_byAreas 1e-300 1e300
  · rw [← told]
    exact (ChangeReport.decodeText_compact [report]).trans (ChangeReport.mapM_reread_eq [report])

end Settings

end Told

end ProfileDrift
