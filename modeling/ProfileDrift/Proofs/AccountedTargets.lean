import ProfileDrift.Proofs.InspectedOnce
import ProfileDrift.Scalar.Blocks

namespace ProfileDrift

/-- The check tells how the profile that the store keeps as its target compares with another
that the store keeps for another version, and both have the configuration that it records. -/
structure ProfileCheck.Founded {α : Type} [Scalar α] [Tally α] [Hundredths α]
    (settings : Settings α) (store : Store α) (version : VersionId) (check : ProfileCheck α)
    (target baseline : Profile α) : Prop where
  targetKept : store.load check.target = .ok target
  baselineKept : store.load check.baseline = .ok baseline
  listed : ∃ references, store.list check.baselineVersion = .ok references ∧
    check.baseline ∈ references
  elsewhere : check.baselineVersion ≠ version
  targetConfiguration : target.configuration = check.configuration
  baselineConfiguration : baseline.configuration = check.configuration
  reports : settings.checkPair baseline target = .ok check.reports

/-- Some ancestor of the version carries a profile with the configuration. -/
def HasBaseline {α : Type} (history : History) (store : Store α) (version : VersionId)
    (configuration : Configuration) : Prop :=
  ∃ ancestor ∈ history.ancestry version, store.Carries configuration ancestor

namespace Baseline

variable {α : Type} {configuration : Configuration} {history : History} {store : Store α}
  {target : VersionId}

theorem found_of_find {version : VersionId} {reference : ProfileRef} {profile : Profile α}
    {visited : ℕ} (answered : (find configuration history store target).alone =
      .ok (.found version reference profile visited)) :
    version ∈ history.ancestry target ∧
      store.IsFirstMatch configuration version reference profile := by
  have ended := find_ends configuration history store target
  rw [answered] at ended
  cases ended with
  | matched reach read first =>
    exact ⟨reach.mem_ancestry version (List.mem_append_right _ (List.mem_cons_self ..)),
      Store.isFirstMatch_of_matching read first⟩

theorem not_hasBaseline_of_find {visited : ℕ}
    (answered : (find configuration history store target).alone = .ok (.notFound visited)) :
    ¬ HasBaseline history store target configuration := by
  have ended := find_ends configuration history store target
  rw [answered] at ended
  cases ended with
  | exhausted reach =>
    rintro ⟨ancestor, ⟨other, length, path⟩, carries⟩
    obtain ⟨queued, record⟩ := reach.discovered
    rw [List.append_nil] at queued
    have inspected := History.mem_of_closed ⟨_, rfl⟩ (queued.trans record) path
    exact not_carries_of_inspected reach inspected other carries

/-- The references of profiles that the store keeps tell whether their profiles have a
baseline. -/
theorem exists_comparable (history : History) (version : VersionId)
    {targets : List (ProfileRef × Profile α)}
    (kept : ∀ entry ∈ targets, store.load entry.1 = .ok entry.2) :
    ∃ comparable : ProfileRef → Bool, ∀ entry ∈ targets, comparable entry.1 = true ↔
      HasBaseline history store version entry.2.configuration := by
  classical
  refine ⟨fun reference => decide (∃ target, store.load reference = .ok target ∧
    HasBaseline history store version target.configuration), fun entry member => ?_⟩
  rw [decide_eq_true_iff]
  constructor
  · rintro ⟨target, found, has⟩
    rw [kept entry member] at found
    cases found
    exact has
  · exact fun has => ⟨entry.2, kept entry member, has⟩

end Baseline

namespace Settings

variable {α : Type} [Scalar α] [Tally α] [Hundredths α] {settings : Settings α}
  {history : History} {store : Store α} {version : VersionId} {reference : ProfileRef} {target : Profile α}

theorem checked_of_checkProfile {check : ProfileCheck α}
    (answered : (settings.checkProfile history store version reference target).alone =
      .ok (.checked check)) (kept : store.load reference = .ok target) :
    check.target = reference ∧ HasBaseline history store version target.configuration ∧
      ∃ baseline, check.Founded settings store version target baseline := by
  rw [alone_checkProfile] at answered
  obtain ⟨pairing, found, answered⟩ := bind_eq_ok answered
  cases pairing with
  | notFound visited => cases answered
  | found ancestor other baseline visited =>
    obtain ⟨member, first⟩ := Baseline.found_of_find (mapError_eq_ok found)
    obtain ⟨earlier, later, listed, loaded, same, _⟩ := id first
    dsimp only [verdict] at answered
    cases reports : settings.checkPair baseline target with
    | error error => rw [reports] at answered; cases answered
    | ok made =>
      rw [reports] at answered
      cases answered
      have inside : other ∈ earlier ++ other :: later :=
        List.mem_append_right earlier (List.mem_cons_self ..)
      exact ⟨rfl, ⟨ancestor, member, first.carries⟩, baseline, kept, loaded,
        ⟨_, listed, inside⟩, member.1, rfl, same, reports⟩

theorem noted_of_checkProfile {note : NotComparable}
    (answered : (settings.checkProfile history store version reference target).alone =
      .ok (.notComparable note)) :
    note.target = reference ∧ ¬ HasBaseline history store version target.configuration := by
  rw [alone_checkProfile] at answered
  obtain ⟨pairing, found, answered⟩ := bind_eq_ok answered
  cases pairing with
  | notFound visited =>
    cases answered
    exact ⟨rfl, Baseline.not_hasBaseline_of_find (mapError_eq_ok found)⟩
  | found ancestor other baseline visited =>
    dsimp only [verdict] at answered
    cases reports : settings.checkPair baseline target <;> rw [reports] at answered <;>
      cases answered

/-- Only a baseline that was found can make the settings fail. -/
theorem pairing_of_settings_error {error : SettingsError}
    (failed : (settings.checkProfile history store version reference target).alone =
      .error (.failure (.settings error))) :
    ∃ ancestor other baseline visited,
      (Baseline.find target.configuration history store version).alone =
        .ok (.found ancestor other baseline visited) ∧
      settings.checkPair baseline target = .error error := by
  rw [alone_checkProfile] at failed
  rcases bind_eq_error failed with unfound | ⟨pairing, found, failed⟩
  · obtain ⟨cause, _, other⟩ := mapError_eq_error unfound
    cases cause <;> cases other
  · cases pairing with
    | notFound visited => cases failed
    | found ancestor other baseline visited =>
      dsimp only [verdict] at failed
      cases reports : settings.checkPair baseline target with
      | ok made => rw [reports] at failed; cases failed
      | error reason =>
        rw [reports] at failed
        cases failed
        exact ⟨ancestor, other, baseline, visited, mapError_eq_ok found, reports⟩

/-- Verdicts are sorted by whether their targets have a baseline, so that among the checks and
among the notes every target stands as often and in the same order as in the listing. -/
theorem targets_of_judged {targets : List (ProfileRef × Profile α)} {verdicts : List (Verdict α)}
    (judged : List.Forall₂ (fun entry verdict =>
      (settings.checkProfile history store version entry.1 entry.2).alone = .ok verdict)
      targets verdicts)
    (kept : ∀ entry ∈ targets, store.load entry.1 = .ok entry.2) {comparable : ProfileRef → Bool}
    (tells : ∀ entry ∈ targets, comparable entry.1 = true ↔
      HasBaseline history store version entry.2.configuration) :
    (verdicts.filterMap Verdict.check?).map (·.target) =
        (targets.map (·.1)).filter comparable ∧
      (verdicts.filterMap Verdict.note?).map (·.target) =
        (targets.map (·.1)).filter (!comparable ·) := by
  induction judged with
  | nil => exact ⟨rfl, rfl⟩
  | @cons entry verdict targets verdicts here _ ih =>
    obtain ⟨checks, notes⟩ := ih (fun entry member => kept entry (List.mem_cons_of_mem _ member))
      fun entry member => tells entry (List.mem_cons_of_mem _ member)
    have told := tells entry (List.mem_cons_self ..)
    cases verdict with
    | checked check =>
      obtain ⟨same, has, _⟩ := checked_of_checkProfile here (kept entry (List.mem_cons_self ..))
      have yes := told.mpr has
      rw [List.map_cons, List.filter_cons_of_pos yes,
        List.filter_cons_of_neg (by rw [yes]; exact Bool.false_ne_true), ← checks, ← notes, ← same]
      exact ⟨rfl, rfl⟩
    | notComparable note =>
      obtain ⟨same, lacks⟩ := noted_of_checkProfile here
      have no : comparable entry.1 = false := Bool.eq_false_iff.mpr (told.not.mpr lacks)
      rw [List.map_cons, List.filter_cons_of_neg (by rw [no]; exact Bool.false_ne_true),
        List.filter_cons_of_pos (by rw [no]; rfl), ← checks, ← notes, ← same]
      exact ⟨rfl, rfl⟩

theorem founded_of_judged {targets : List (ProfileRef × Profile α)} {verdicts : List (Verdict α)}
    (judged : targets.mapM (fun entry =>
      (settings.checkProfile history store version entry.1 entry.2).alone) = .ok verdicts)
    (kept : ∀ entry ∈ targets, store.load entry.1 = .ok entry.2) {made : ProfileCheck α}
    (member : made ∈ verdicts.filterMap Verdict.check?) :
    ∃ target baseline, made.Founded settings store version target baseline := by
  obtain ⟨verdict, inside, checked⟩ := List.mem_filterMap.mp member
  obtain ⟨entry, present, answered⟩ := mem_of_mapM_eq_ok judged verdict inside
  cases verdict with
  | notComparable note => cases checked
  | checked check =>
    cases checked
    obtain ⟨_, _, baseline, founded⟩ := checked_of_checkProfile answered (kept entry present)
    exact ⟨entry.2, baseline, founded⟩

/-- A version fails for a reason that lies in the settings where one of its profiles does. -/
theorem culprit_of_settings_error {error : SettingsError}
    (failed : (settings.checkVersion history store version).alone =
      .error (.failure (.settings error))) :
    ∃ references reference target, store.list version = .ok references ∧
      reference ∈ references ∧ store.load reference = .ok target ∧
      (settings.checkProfile history store version reference target).alone =
        .error (.failure (.settings error)) := by
  rw [alone_checkVersion] at failed
  rcases bind_eq_error failed with unread | ⟨targets, read, failed⟩
  · obtain ⟨cause, _, other⟩ := mapError_eq_error unread
    cases cause <;> cases other
  · obtain ⟨listed, kept⟩ := Store.profilesOf_eq_ok (mapError_eq_ok read)
    rcases bind_eq_error failed with unjudged | ⟨verdicts, _, impossible⟩
    · obtain ⟨earlier, entry, later, rfl, _, fails⟩ := mapM_eq_error_iff.mp unjudged
      have inside : entry ∈ earlier ++ entry :: later :=
        List.mem_append_right earlier (List.mem_cons_self ..)
      exact ⟨_, entry.1, entry.2, listed, List.mem_map_of_mem inside, kept entry inside, fails⟩
    · cases impossible

/-- A check of a version that ends without a fault accounts for each of its profiles: those
with a baseline are checked, in the order of the listing, and the others are noted. It fails
for a reason that lies in the settings only where a profile with a baseline made the check of
the pair fail, and never because of a profile without one. -/
theorem checkVersion_accounts (settings : Settings α) {history : History} {store : Store α}
    {version : VersionId} {cache : Cache α} (faithful : cache.Faithful store) :
    let outcome := ((settings.checkVersion history store version).through cache).1
    (∀ check, outcome = .ok check → check.version = version ∧
      ∃ references comparable, store.list version = .ok references ∧
        (∀ reference ∈ references, ∃ target, store.load reference = .ok target ∧
          (comparable reference = true ↔
            HasBaseline history store version target.configuration)) ∧
        check.checks.map (·.target) = references.filter comparable ∧
        check.notComparable.map (·.target) = references.filter (!comparable ·) ∧
        ∀ made ∈ check.checks, ∃ target baseline,
          made.Founded settings store version target baseline) ∧
    (∀ error, outcome = .error (.failure (.settings error)) →
      ∃ references reference target ancestor other baseline visited,
        store.list version = .ok references ∧ reference ∈ references ∧
        store.load reference = .ok target ∧
        ((Baseline.find target.configuration history store version).through cache).1 =
          .ok (.found ancestor other baseline visited) ∧
        settings.checkPair baseline target = .error error) ∧
    ∀ reference target, ¬ HasBaseline history store version target.configuration →
      ∀ error, ((settings.checkProfile history store version reference target).through cache).1 ≠
        .error (.failure (.settings error)) := by
  intro outcome
  have same : outcome = (settings.checkVersion history store version).alone :=
    (settings.checkVersion_settled history store version cache faithful).1
  refine ⟨fun check answered => ?_, fun error failed => ?_, fun reference target lacks error failed => ?_⟩
  · rw [same, alone_checkVersion] at answered
    obtain ⟨targets, read, answered⟩ := bind_eq_ok answered
    obtain ⟨verdicts, judged, made⟩ := bind_eq_ok answered
    cases made
    obtain ⟨listed, kept⟩ := Store.profilesOf_eq_ok (mapError_eq_ok read)
    obtain ⟨comparable, tells⟩ := Baseline.exists_comparable history version kept
    obtain ⟨checks, notes⟩ := targets_of_judged (mapM_eq_ok_iff.mp judged) kept tells
    refine ⟨rfl, _, comparable, listed, fun reference member => ?_, checks, notes,
      fun made member => founded_of_judged judged kept member⟩
    obtain ⟨entry, inside, rfl⟩ := List.mem_map.mp member
    exact ⟨entry.2, kept entry inside, tells entry inside⟩
  · rw [same] at failed
    obtain ⟨references, reference, target, listed, member, kept, fails⟩ :=
      culprit_of_settings_error failed
    obtain ⟨ancestor, other, baseline, visited, found, reason⟩ := pairing_of_settings_error fails
    rw [← (Baseline.find_settled target.configuration history store version cache faithful).1]
      at found
    exact ⟨references, reference, target, ancestor, other, baseline, visited, listed, member, kept,
      found, reason⟩
  · rw [(settings.checkProfile_settled history store version reference target cache faithful).1]
      at failed
    obtain ⟨ancestor, other, baseline, visited, found, _⟩ := pairing_of_settings_error failed
    obtain ⟨member, first⟩ := Baseline.found_of_find found
    exact lacks ⟨ancestor, member, first.carries⟩

end Settings

namespace Baseline

/-- The merge lists the large workload twice and a small one between, and of its ancestors the
right parent and the base list the large one. -/
def assorted : Store Float where
  list version :=
    .ok (if version = ⟨"merge"⟩ then [⟨"large"⟩, ⟨"small"⟩, ⟨"large"⟩]
      else if version = ⟨"left"⟩ then [] else [⟨"large"⟩])
  load reference := .ok (.blank (workload reference.text) "time")

theorem alone_find_assorted :
    (find (workload "large") crossing assorted ⟨"merge"⟩).alone =
        .ok (.found ⟨"right"⟩ ⟨"large"⟩ (.blank (workload "large") "time") 2) ∧
      (find (workload "small") crossing assorted ⟨"merge"⟩).alone = .ok (.notFound 3) := by
  rw [alone_find_crossing, alone_find_crossing]
  exact ⟨rfl, rfl⟩

end Baseline

namespace Settings

open Baseline (assorted crossing workload)
open scoped Lanes

/-- The check of the merge goes by what the settings say of the large workload, which is met
twice. -/
theorem alone_checkVersion_assorted (settings : Settings Float) :
    (settings.checkVersion crossing assorted ⟨"merge"⟩).alone =
      match settings.checkPair (.blank (workload "large") "time")
        (.blank (workload "large") "time") with
      | .ok reports =>
        let check := ⟨workload "large", ⟨"large"⟩, ⟨"right"⟩, ⟨"large"⟩, reports⟩
        .ok ⟨⟨"merge"⟩, [check, check], [⟨workload "small", ⟨"small"⟩, 3⟩]⟩
      | .error error => .error (.failure (.settings error)) := by
  obtain ⟨found, absent⟩ := Baseline.alone_find_assorted
  have large : (settings.checkProfile crossing assorted ⟨"merge"⟩ ⟨"large"⟩
      (.blank (workload "large") "time")).alone =
        settings.verdict ⟨"large"⟩ (.blank (workload "large") "time")
          (.found ⟨"right"⟩ ⟨"large"⟩ (.blank (workload "large") "time") 2) := by
    rw [alone_checkProfile]
    change (Baseline.find (workload "large") _ _ _).alone.mapError _ >>= _ = _
    rw [found]
    rfl
  have small : (settings.checkProfile crossing assorted ⟨"merge"⟩ ⟨"small"⟩
      (.blank (workload "small") "time")).alone =
        .ok (.notComparable ⟨workload "small", ⟨"small"⟩, 3⟩) := by
    rw [alone_checkProfile]
    change (Baseline.find (workload "small") _ _ _).alone.mapError _ >>= _ = _
    rw [absent]
    rfl
  have listed : assorted.profilesOf ⟨"merge"⟩ =
      .ok [(⟨"large"⟩, .blank (workload "large") "time"),
        (⟨"small"⟩, .blank (workload "small") "time"),
        (⟨"large"⟩, .blank (workload "large") "time")] := rfl
  rw [alone_checkVersion, listed]
  simp only [Except.mapError, bind, Except.bind, List.mapM_cons, large, small, verdict]
  cases settings.checkPair _ _ <;> rfl

/-- Settings that name no method there is. -/
def guessing : Settings Float := ⟨.all, [.always "guess"]⟩

/-- The usual settings check both listings of the large workload and note the small one. Under
settings that cannot be built the check fails for a target with a baseline, and for the small
workload it would not. -/
theorem checkVersion_accounts_assorted :
    Cache.Faithful assorted .empty ∧
    (∃ check, ((Settings.default.checkVersion crossing assorted ⟨"merge"⟩).through .empty).1 =
        .ok check ∧
      (∃ references comparable, assorted.list ⟨"merge"⟩ = .ok references ∧
        check.checks.map (·.target) = references.filter comparable ∧
        check.notComparable.map (·.target) = references.filter (!comparable ·)) ∧
      check.checks.map (·.target) = [⟨"large"⟩, ⟨"large"⟩] ∧
      check.notComparable.map (·.target) = [⟨"small"⟩]) ∧
    (∃ error, ((guessing.checkVersion crossing assorted ⟨"merge"⟩).through .empty).1 =
        .error (.failure (.settings error)) ∧
      ∃ reference target ancestor other baseline visited,
        assorted.load reference = .ok target ∧
        ((Baseline.find target.configuration crossing assorted ⟨"merge"⟩).through .empty).1 =
          .ok (.found ancestor other baseline visited) ∧
        guessing.checkPair baseline target = .error error) ∧
    ¬ HasBaseline crossing assorted ⟨"merge"⟩ (workload "small") ∧
    ∀ error, ((guessing.checkProfile crossing assorted ⟨"merge"⟩ ⟨"small"⟩
      (.blank (workload "small") "time")).through .empty).1 ≠
        .error (.failure (.settings error)) := by
  have faithful := Cache.empty_faithful assorted
  obtain ⟨succeeds, _, _⟩ :=
    @checkVersion_accounts Float _ _ _ .default crossing assorted ⟨"merge"⟩ .empty faithful
  obtain ⟨_, fails, spares⟩ :=
    @checkVersion_accounts Float _ _ _ guessing crossing assorted ⟨"merge"⟩ .empty faithful
  have good : ((Settings.default : Settings Float).checkPair (.blank (workload "large") "time")
      (.blank (workload "large") "time")).toBool = true := by decide +kernel
  have lacks := Baseline.not_hasBaseline_of_find Baseline.alone_find_assorted.2
  refine ⟨faithful, ?_, ?_, lacks, spares _ (.blank (workload "small") "time") lacks⟩
  · have run := alone_checkVersion_assorted .default
    cases compared : (Settings.default : Settings Float).checkPair
        (.blank (workload "large") "time") (.blank (workload "large") "time") with
    | error error => rw [compared] at good; cases good
    | ok reports =>
      rw [compared] at run
      obtain ⟨_, references, comparable, listed, _, checks, notes, _⟩ := succeeds _ run
      exact ⟨_, run, ⟨references, comparable, listed, checks, notes⟩, rfl, rfl⟩
  · have run := alone_checkVersion_assorted guessing
    obtain ⟨_, reference, target, ancestor, other, baseline, visited, _, _, loaded, found, reason⟩ :=
      fails _ run
    exact ⟨_, run, reference, target, ancestor, other, baseline, visited, loaded, found, reason⟩

end Settings

end ProfileDrift
