import Mathlib.Data.List.ProdSigma
import ProfileDrift.Decimal.Notation
import ProfileDrift.Proofs.KeyedGroups
import ProfileDrift.Proofs.MethodChoice
import ProfileDrift.Proofs.TextBytes
import ProfileDrift.Scalar.Blocks
import ProfileDrift.Scalar.Double

namespace ProfileDrift

namespace Method

variable {α : Type} [Scalar α]

/-- Whatever keeps the method and the location of a report on models keeps those that the
report was begun with. -/
theorem reportOnModels_labels {name : MethodName} {subtype : String} {baseline target : Profile α}
    {uid : String} {judge : Model α → Model α → ChangeReport α → ChangeReport α}
    (keeps : ∀ base other report, (judge base other report).method = report.method ∧
      (judge base other report).location = report.location) :
    let report := reportOnModels name subtype baseline target uid judge
    report.method = name.full ∧ report.location = uid := by
  unfold reportOnModels
  dsimp only
  split
  · exact keeps _ _ _
  · exact ⟨rfl, rfl⟩

/-- Every report tells the method that made it and the group that it is about. -/
theorem compare_labels [Tally α] [Hundredths α] (method : Method α) (baseline target : Profile α)
    (uid : String) :
    (method.compare baseline target uid).method = method.name.full ∧
      (method.compare baseline target uid).location = uid := by
  cases method with
  | averageAmount degradation optimization =>
    unfold compare compareAverages
    dsimp only
    split
    · split <;> exact ⟨rfl, rfl⟩
    · exact ⟨rfl, rfl⟩
  | modelOrder confidence =>
    exact reportOnModels_labels fun _ _ _ => ⟨rfl, rfl⟩
  | integral noChange change =>
    refine reportOnModels_labels fun base other report => ?_
    dsimp only
    split
    · exact ⟨rfl, rfl⟩
    · split <;> exact ⟨rfl, rfl⟩
  | fastCheck change | linearRegression change =>
    refine reportOnModels_labels fun base other report => ?_
    dsimp only
    split <;> exact ⟨rfl, rfl⟩

end Method

namespace Profile

variable {α : Type}

theorem mem_commonUids {profile other : Profile α} {uid : String} :
    uid ∈ profile.commonUids other ↔
      uid ∈ profile.resources.names ∧ uid ∈ other.resources.names := by
  rw [commonUids, List.mem_filter, Keyed.contains_iff]

theorem commonUids_ascending (profile other : Profile α) :
    (profile.commonUids other).Pairwise (· < ·) :=
  (List.pairwise_map.mpr profile.resources.ascending).filter _

end Profile

theorem MethodName.full_injective : Function.Injective MethodName.full := by
  intro name other
  cases name <;> cases other <;> decide

namespace Settings

variable {α : Type} [Scalar α] [Tally α] [Hundredths α]

theorem checkPair_eq (settings : Settings α) (baseline target : Profile α) :
    settings.checkPair baseline target =
      (Rule.methods (settings.applicable target)).map fun methods =>
        methods.flatMap fun method =>
          (baseline.commonUids target).map (method.compare baseline target) := by
  unfold checkPair Settings.methods
  rw [select_eq_applicable]
  cases Rule.methods (settings.applicable target) <;> rfl

theorem checkPair_eq_error_iff {settings : Settings α} {baseline target : Profile α}
    {error : SettingsError} :
    settings.checkPair baseline target = .error error ↔
      Rule.methods (settings.applicable target) = .error error := by
  rw [checkPair_eq]
  cases Rule.methods (settings.applicable target) with
  | error other =>
    constructor <;>
      · rintro ⟨⟩
        rfl
  | ok methods => exact ⟨nofun, nofun⟩

/-- What the reports are about, method by method and within a method group by group. -/
theorem labels_of_reports (methods : List (Method α)) (baseline target : Profile α)
    (uids : List String) :
    ((methods.flatMap fun method => uids.map (method.compare baseline target)).map
        fun report => (report.method, report.location)) =
      (methods.map (·.name.full)) ×ˢ uids := by
  change _ = (methods.map (·.name.full)).flatMap fun name => uids.map (Prod.mk name)
  rw [List.map_flatMap, List.flatMap_map]
  congr 1
  funext method
  rw [List.map_map]
  refine List.map_congr_left fun uid _ => ?_
  obtain ⟨named, located⟩ := method.compare_labels baseline target uid
  exact Prod.ext named located

/-- A check of a pair fails exactly if a rule that applies to the target cannot be built,
and the first such rule says why, even where an earlier rule has asked for its method.
Otherwise every method that is asked for, built by the first rule that does, reports on
every group that both profiles have, method by method and in the order of the names of
groups: none twice and none left out. -/
theorem checkPair_reports (settings : Settings α) (baseline target : Profile α) :
    let rules := settings.applicable target
    (∀ error, settings.checkPair baseline target = .error error ↔
      ∃ earlier rule later, rules = earlier ++ rule :: later ∧
        (∀ other ∈ earlier, ∃ method, other.build = .ok method) ∧ rule.build = .error error) ∧
    ((∃ error, settings.checkPair baseline target = .error error) ↔
      ∃ rule ∈ rules, ∃ error, rule.build = .error error) ∧
    ∀ reports, settings.checkPair baseline target = .ok reports →
      (∃ (methods : List (Method α)) (uids : List String),
        List.Forall₂ (fun rule method => rule.build = .ok method)
          (firstOfEach Rule.methodName? rules) methods ∧
        (∀ uid, uid ∈ uids ↔ uid ∈ baseline.resources.names ∧ uid ∈ target.resources.names) ∧
        uids.Pairwise (fun left right => left.toUTF8.toList < right.toUTF8.toList) ∧
        reports = methods.flatMap fun method => uids.map (method.compare baseline target)) ∧
      (reports.map fun report => (report.method, report.location)).Nodup ∧
      ∀ (name : MethodName) uid,
        (name.full, uid) ∈ reports.map (fun report => (report.method, report.location)) ↔
          (∃ rule ∈ rules, rule.methodName? = some name) ∧
            uid ∈ baseline.resources.names ∧ uid ∈ target.resources.names := by
  intro rules
  refine ⟨fun error => checkPair_eq_error_iff.trans Rule.methods_eq_error_iff, ?_,
    fun reports checked => ?_⟩
  · exact (exists_congr fun error => checkPair_eq_error_iff).trans Rule.exists_methods_eq_error_iff
  · rw [checkPair_eq] at checked
    obtain ⟨methods, made, rfl⟩ := map_eq_ok checked
    obtain ⟨_, built⟩ := Rule.methods_eq_ok_iff.mp made
    have common := baseline.commonUids_ascending target
    have full : methods.map (·.name.full) = (methods.map (·.name)).map MethodName.full := by
      rw [List.map_map]
      rfl
    refine ⟨⟨methods, _, built, fun uid => Profile.mem_commonUids,
      common.imp fun less => (Text.lt_iff_bytes_lt _ _).mp less, rfl⟩, ?_, fun name uid => ?_⟩
    · have names := (Rule.nodup_of_methods made).map MethodName.full_injective
      rw [labels_of_reports, full]
      exact names.product (common.imp fun less => String.ne_of_lt less)
    · rw [labels_of_reports, full, List.mem_product, Profile.mem_commonUids,
        List.mem_map_of_injective MethodName.full_injective, Rule.mem_names_of_methods made]

open scoped Lanes

/-- Rules that name one method twice, first by its short name and then by its full one with a
threshold of its own, and another method between them. -/
def repeating (threshold : Float) : Settings Float :=
  ⟨.all, [.always "aat", .always "int",
    { (Rule.always "average_amount_threshold" : Rule Float) with
      params := .ofList [("degradation_threshold", threshold)] }]⟩

def grouped (uids : List String) : Profile Float :=
  uids.foldl (fun profile uid => profile.withResource uid [⟨1.0, 2.0⟩])
    (.blank ⟨"time", "./bin", "", "large", []⟩ "time")

/-- The rule that comes too late changes nothing if it can be built, and fails the check if it
cannot. -/
theorem checkPair_reports_repeating :
    let baseline := grouped ["main", "copy"]
    let target := grouped ["sort", "main"]
    (∃ reports, (repeating 3.0).checkPair baseline target = .ok reports ∧
      (reports.map fun report => (report.method, report.location)).Nodup ∧
      (MethodName.averageAmount.full, "main") ∈
        reports.map (fun report => (report.method, report.location)) ∧
      (MethodName.averageAmount.full, "copy") ∉
        reports.map (fun report => (report.method, report.location))) ∧
    ∃ error, (repeating 0.5).checkPair baseline target = .error error ∧
      ∃ earlier rule later, (repeating 0.5).applicable target = earlier ++ rule :: later ∧
        (∀ other ∈ earlier, ∃ method, other.build = .ok method) ∧ rule.build = .error error := by
  intro baseline target
  obtain ⟨_, _, succeeds⟩ := checkPair_reports (repeating 3.0) baseline target
  obtain ⟨fails, _, _⟩ := checkPair_reports (repeating 0.5) baseline target
  have good : ((repeating 3.0).checkPair baseline target).toBool = true := by decide +kernel
  have bad : ((repeating 0.5).checkPair baseline target).toBool = false := by decide +kernel
  refine ⟨?_, ?_⟩
  · cases checked : (repeating 3.0).checkPair baseline target with
    | error error =>
      rw [checked] at good
      cases good
    | ok reports =>
      obtain ⟨_, distinct, complete⟩ := succeeds reports checked
      have asked : ∃ rule ∈ (repeating 3.0).applicable target,
          rule.methodName? = some .averageAmount :=
        ⟨_, List.mem_cons_self .., rfl⟩
      refine ⟨reports, rfl, distinct, (complete _ _).mpr ⟨asked, by decide, by decide⟩, ?_⟩
      intro member
      exact absurd ((complete _ _).mp member).2.2 (by decide)
  · cases failed : (repeating 0.5).checkPair baseline target with
    | ok reports =>
      rw [failed] at bad
      cases bad
    | error error => exact ⟨error, rfl, (fails error).mp failed⟩

end Settings

end ProfileDrift
