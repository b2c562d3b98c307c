import ProfileDrift.CommandLine.Run
import ProfileDrift.Proofs.PairReports
import ProfileDrift.Proofs.ReportText
import ProfileDrift.Proofs.RuleValidation
import ProfileDrift.Scalar.Blocks

namespace ProfileDrift

theorem ChangeKind.isShown_iff {kind : ChangeKind} {verbose : Bool} :
    kind.isShown verbose = true ↔ verbose = true ∨ (kind ≠ .noChange ∧ kind ≠ .unknown) := by
  cases kind <;> simp [isShown]

/-- A reader reads about every change, and about the rest on request. -/
theorem ChangeReport.render_eq {α : Type} [Hundredths α] (verbose : Bool)
    (reports : List (ChangeReport α)) :
    render verbose reports = String.join ((reports.filter fun report =>
      verbose = true ∨ report.kind ≠ .noChange ∧ report.kind ≠ .unknown).map (·.line)) := by
  unfold render
  congr 2
  refine List.filter_congr fun report _ => ?_
  rw [Bool.eq_iff_iff, decide_eq_true_iff]
  exact ChangeKind.isShown_iff

namespace ChangeReport

/-- How the rate of a report reads in its line: not at all if there is none. -/
inductive RateText : Option Float → String → Prop where
  | absent : RateText none ""
  | told (rate : Float) : RateText (some rate) (", rate " ++ Hundredths.hundredths rate)

/-- How the confidence of a report reads in its line, which takes a name for it. -/
inductive ConfidenceText : Option String → Option Float → String → Prop where
  | absent (name : Option String) : ConfidenceText name none ""
  | unnamed (confidence : Option Float) : ConfidenceText none confidence ""
  | told (name : String) (confidence : Float) : ConfidenceText (some name) (some confidence)
      (", " ++ name ++ " " ++ Hundredths.hundredths confidence)

/-- A line that tells everything a report says: the kind, the group, what was found on both
sides, what was measured, how large the change is and how sure it is, and by which method. -/
def ToldBy (report : ChangeReport Float) (line : String) : Prop :=
  ∃ rate confidence, RateText report.rate rate ∧
    ConfidenceText report.confidenceType report.confidence confidence ∧
    line = "  " ++ report.kind.marker ++ " " ++ report.kind.label ++ " at " ++ report.location ++
      ": " ++ report.baselineValue ++ " -> " ++ report.targetValue ++ " (" ++ report.subtype ++
      rate ++ confidence ++ ") [" ++ report.method ++ "]\n"

theorem toldBy_line (report : ChangeReport Float) : report.ToldBy report.line := by
  obtain ⟨method, kind, subtype, location, baseline, target, confidence, type, rate⟩ := report
  refine ⟨_, _, ?_, ?_, rfl⟩
  · cases rate with
    | none => exact .absent
    | some rate => exact .told rate
  · cases type with
    | none => exact .unnamed confidence
    | some name =>
      cases confidence with
      | none => exact .absent _
      | some confidence => exact .told name confidence

end ChangeReport

theorem ChangeKind.label_injective : Function.Injective label := by
  intro kind other same
  cases kind <;> cases other <;> first | rfl | exact absurd same (by decide)

namespace ChangeSummary

/-- A summary counts every report once. -/
theorem total_ofReports {α : Type} (reports : List (ChangeReport α)) :
    (ofReports reports).total = reports.length := by
  induction reports with
  | nil => rfl
  | cons report rest ih =>
    simp only [total, ofReports, ChangeKind.all, List.map_cons, List.map_nil, List.foldr_cons,
      List.foldr_nil, List.countP_cons, List.length_cons, decide_eq_true_eq] at ih ⊢
    rw [← ih]
    cases report.kind <;> simp only [reduceCtorEq, if_true, if_false] <;> omega

/-- The kinds that occur among reports, each with how many reports are of it. -/
def occurring (reports : List (ChangeReport Float)) (kinds : List ChangeKind) :
    List (ChangeKind × Nat) :=
  (kinds.filter fun kind => reports.any (·.kind = kind)).map fun kind =>
    (kind, reports.countP (·.kind = kind))

theorem present_ofReports (reports : List (ChangeReport Float)) (kinds : List ChangeKind) :
    (ofReports reports).present kinds = occurring reports kinds := by
  rw [present, List.filter_map, occurring]
  refine congrArg (List.map _) (List.filter_congr fun kind _ => ?_)
  rw [Bool.eq_iff_iff]
  change decide (0 < reports.countP _) = true ↔ _
  rw [decide_eq_true_iff, List.countP_pos_iff, List.any_eq_true]

theorem display_ofReports (reports : List (ChangeReport Float)) :
    (ofReports reports).display =
      if reports.isEmpty then "no changes checked"
      else ", ".intercalate ((occurring reports ChangeKind.all).map fun (kind, count) =>
        toString count ++ " " ++ kind.label) := by
  rw [display, present_ofReports]
  cases reports with
  | nil => rfl
  | cons report reports =>
    split
    · rename_i none
      have listed : report.kind ∈ ChangeKind.all := by cases report.kind <;> decide
      have occurs : (report :: reports).any (·.kind = report.kind) = true :=
        List.any_eq_true.mpr ⟨report, List.mem_cons_self .., decide_eq_true rfl⟩
      have counted : (report.kind, (report :: reports).countP (·.kind = report.kind)) ∈
          occurring (report :: reports) ChangeKind.all :=
        List.mem_map.mpr ⟨report.kind, List.mem_filter.mpr ⟨listed, occurs⟩, rfl⟩
      rw [none] at counted
      exact absurd counted List.not_mem_nil
    · rfl

theorem toJson_ofReports (reports : List (ChangeReport Float)) :
    (ofReports reports).toJson = .object [("counts", .object
      ((occurring reports ChangeKind.written).map fun (kind, count) =>
        (kind.name, .count count)))] := by
  rw [toJson, present_ofReports]

end ChangeSummary

/-- A pair can be checked as soon as the rules that apply to the target can be built. -/
theorem Settings.exists_checkPair_eq_ok {α : Type} [Scalar α] [Tally α] [Hundredths α]
    {settings : Settings α} {baseline target : Profile α}
    (buildable : ∀ rule ∈ settings.applicable target, ∃ method, rule.build = .ok method) :
    ∃ reports, settings.checkPair baseline target = .ok reports := by
  obtain ⟨methods, made⟩ := Rule.exists_methods_eq_ok buildable
  exact ⟨_, by rw [checkPair_eq, made]; rfl⟩

theorem Settings.buildable_of_checkPair {α : Type} [Scalar α] [Tally α] [Hundredths α]
    {settings : Settings α} {baseline target : Profile α} {reports : List (ChangeReport α)}
    (checked : settings.checkPair baseline target = .ok reports) :
    ∀ rule ∈ settings.applicable target, ∃ method, rule.build = .ok method := by
  rw [checkPair_eq] at checked
  obtain ⟨methods, made, _⟩ := map_eq_ok checked
  exact (Rule.methods_eq_ok_iff.mp made).1

namespace Command

variable {files : Files}

/-- There is a file of that name, and its text is a document. -/
def Describes [Json.NumberReader] (files : Files) (path : String) (document : Document Float) : Prop :=
  ∃ text, files.content? path = some text ∧ Document.ofText text = .ok document

/-- The settings are told by the file that is named for them, or are the usual ones if none
is named. -/
def Settles (files : Files) : Option String → Settings Float → Prop
  | none, settings => settings = .default
  | some path, settings =>
    ∃ text, files.content? path = some text ∧ Settings.ofText text = .ok settings

theorem documentFrom_eq_ok_iff [Json.NumberReader] {path : String} {document : Document Float} :
    documentFrom files path = .ok document ↔ Describes files path document := by
  unfold documentFrom Describes
  cases files.content? path with
  | none => exact ⟨nofun, nofun⟩
  | some text =>
    cases read : Document.ofText text with
    | error problem => simp [read]
    | ok found => simp [read]

theorem settingsFrom_eq_ok_iff {path : Option String} {settings : Settings Float} :
    settingsFrom files path = .ok settings ↔ Settles files path settings := by
  cases path with
  | none => exact ⟨fun same => (Except.ok.inj same).symm, fun same => congrArg _ same.symm⟩
  | some path =>
    unfold settingsFrom Settles
    cases held : files.content? path with
    | none => simp [held]
    | some text =>
      cases read : Settings.ofText text with
      | error problem => simp [held, read]
      | ok found => simp [held, read]

theorem Describes.unique [Json.NumberReader] {path : String} {document other : Document Float}
    (first : Describes files path document) (second : Describes files path other) :
    document = other :=
  Except.ok.inj ((documentFrom_eq_ok_iff.mpr first).symm.trans (documentFrom_eq_ok_iff.mpr second))

theorem Settles.unique {path : Option String} {settings other : Settings Float}
    (first : Settles files path settings) (second : Settles files path other) : settings = other :=
  Except.ok.inj ((settingsFrom_eq_ok_iff.mpr first).symm.trans (settingsFrom_eq_ok_iff.mpr second))

/-- What a comparison leaves to be read of its reports. -/
def printed (format : OutputFormat) (verbose : Bool) (target : Profile Float)
    (reports : List (ChangeReport Float)) : String :=
  match format with
  | .json => (comparisonJson target reports).pretty ++ "\n"
  | .text => comparisonText target reports verbose

/-- A comparison that was printed as JSON, of which the reports are read. -/
def reportsShape : Decode.Shape (List (ChangeReport Float)) :=
  { name := "Comparison"
    blank := []
    strict := false
    fields := [.of "reports" .required (Decode.list ChangeReport.shape.decode)
      fun _ reports => reports] }

/-- Whoever reads the text of a comparison reads every report again. -/
theorem decodeText_comparison [Json.NumberReader] (target : Profile Float)
    (reports : List (ChangeReport Float)) :
    Json.decodeText reportsShape.decode ((comparisonJson target reports).pretty ++ "\n") =
      reports.mapM (·.reread) := by
  have line : Json.AllBlank ['\n'] := fun char member => List.mem_singleton.mp member ▸ rfl
  refine (Json.Value.decodeText_of_tree (Json.Value.tree_pretty _ line) _).trans ?_
  change reportsShape.ofEntries .text [] [] _ = _
  refine (Decode.Shape.ofEntries_unknown rfl rfl (Json.Value.skip_reread _)).trans ?_
  refine (Decode.Shape.ofEntries_unknown rfl rfl (Json.Value.skip_reread _)).trans ?_
  refine (Decode.Shape.ofEntries_more rfl rfl).trans ?_
  change (Decode.list ChangeReport.shape.decode .text
    (Json.Value.array (reports.map (·.toJson))).reread).map _ >>= _ = _
  rw [ChangeReport.decode_reread_list]
  cases reports.mapM (·.reread) <;> rfl

section Compared

variable [Json.NumberReader] [Tally Float] {baseline target : String} {settings : Option String}
  {format : OutputFormat} {verbose : Bool} {chosen : Settings Float}
  {before after : Document Float}

/-- Nothing is printed before the last thing that can go wrong, which is the check itself. -/
theorem compared_of_read (settles : Settles files settings chosen)
    (old : Describes files baseline before) (new : Describes files target after)
    (comparable : before.configuration = after.configuration) :
    compared files baseline target settings format verbose =
      ((chosen.checkPair before.profile after.profile).mapError SettingsError.message).map
        (printed format verbose after.profile) := by
  have same : before.profile.configuration = after.profile.configuration := comparable
  simp only [compared, settingsFrom_eq_ok_iff.mpr settles, documentFrom_eq_ok_iff.mpr old,
    documentFrom_eq_ok_iff.mpr new, bind, Except.bind, same, ne_eq, not_true, if_false]
  cases chosen.checkPair before.profile after.profile with
  | error error => rfl
  | ok reports => cases format <;> rfl

theorem read_of_compared {output : String}
    (done : compared files baseline target settings format verbose = .ok output) :
    ∃ chosen before after, Settles files settings chosen ∧ Describes files baseline before ∧
      Describes files target after ∧ before.configuration = after.configuration := by
  obtain ⟨chosen, settles, done⟩ := bind_eq_ok done
  obtain ⟨before, old, done⟩ := bind_eq_ok done
  obtain ⟨after, new, done⟩ := bind_eq_ok done
  refine ⟨chosen, before, after, settingsFrom_eq_ok_iff.mp settles, documentFrom_eq_ok_iff.mp old,
    documentFrom_eq_ok_iff.mp new, ?_⟩
  by_contra different
  rw [if_pos (show before.profile.configuration ≠ after.profile.configuration from different)]
    at done
  cases done

theorem checked_of_compared {output : String}
    (done : compared files baseline target settings format verbose = .ok output) :
    ∃ chosen before after reports, Settles files settings chosen ∧
      Describes files baseline before ∧ Describes files target after ∧
      before.configuration = after.configuration ∧
      chosen.checkPair before.profile after.profile = .ok reports ∧
      output = printed format verbose after.profile reports := by
  obtain ⟨chosen, before, after, settles, old, new, comparable⟩ := read_of_compared done
  rw [compared_of_read settles old new comparable] at done
  obtain ⟨reports, checked, rfl⟩ := map_eq_ok done
  exact ⟨chosen, before, after, reports, settles, old, new, comparable, mapError_eq_ok checked, rfl⟩

/-- What keeps two profiles from being compared: something named cannot be read, the profiles
are of different configurations, or a rule that applies to the target cannot be built. -/
inductive Obstructed (files : Files) (baseline target : String) (settings : Option String) : Prop
  | settings : (¬ ∃ chosen, Settles files settings chosen) → Obstructed files baseline target settings
  | baseline : (¬ ∃ before, Describes files baseline before) →
      Obstructed files baseline target settings
  | target : (¬ ∃ after, Describes files target after) → Obstructed files baseline target settings
  | configuration {before after : Document Float} : Describes files baseline before →
      Describes files target after →
      before.profile.configuration ≠ after.profile.configuration →
      Obstructed files baseline target settings
  | rule {chosen : Settings Float} {after : Document Float} {rule : Rule Float}
      {error : SettingsError} : Settles files settings chosen → Describes files target after →
      rule ∈ chosen.applicable after.profile → rule.build = .error error →
      Obstructed files baseline target settings

theorem not_obstructed_of_compared {output : String}
    (done : compared files baseline target settings format verbose = .ok output) :
    ¬ Obstructed files baseline target settings := by
  obtain ⟨chosen, before, after, reports, settles, old, new, comparable, checked, _⟩ :=
    checked_of_compared done
  intro obstructed
  cases obstructed with
  | settings unsettled => exact unsettled ⟨chosen, settles⟩
  | baseline unread => exact unread ⟨before, old⟩
  | target unread => exact unread ⟨after, new⟩
  | configuration old' new' different =>
    rw [← old.unique old', ← new.unique new'] at different
    exact different comparable
  | rule settles' new' applies fails =>
    rw [← settles.unique settles', ← new.unique new'] at applies
    obtain ⟨method, built⟩ := Settings.buildable_of_checkPair checked _ applies
    rw [fails] at built
    cases built

theorem exists_compared_of_not_obstructed (free : ¬ Obstructed files baseline target settings) :
    ∃ output, compared files baseline target settings format verbose = .ok output := by
  obtain ⟨chosen, settles⟩ := not_not.mp fun unsettled => free (.settings unsettled)
  obtain ⟨before, old⟩ := not_not.mp fun unread => free (.baseline unread)
  obtain ⟨after, new⟩ := not_not.mp fun unread => free (.target unread)
  have comparable : before.configuration = after.configuration :=
    not_not.mp fun different => free (.configuration old new different)
  have buildable : ∀ rule ∈ chosen.applicable after.profile, ∃ method, rule.build = .ok method := by
    intro rule applies
    cases built : rule.build with
    | ok method => exact ⟨method, rfl⟩
    | error error => exact absurd (.rule settles new applies built) free
  obtain ⟨reports, checked⟩ : ∃ reports,
      chosen.checkPair before.profile after.profile = .ok reports :=
    Settings.exists_checkPair_eq_ok buildable
  exact ⟨_, by rw [compared_of_read settles old new comparable, checked]; rfl⟩

end Compared

theorem outcome_of_unread [Json.NumberReader] [Tally Float] {profile : String} (output : Option String)
    (unread : ¬ ∃ document, Describes files profile document) :
    ∃ complaint, (fit profile output).outcome files = .failure complaint := by
  cases read : documentFrom files profile with
  | ok document => exact absurd ⟨document, documentFrom_eq_ok_iff.mp read⟩ unread
  | error complaint =>
    have failed : fitted files profile = .error complaint := by
      rw [fitted, read]
      rfl
    exact ⟨complaint, by simp only [outcome, failed]⟩

/-- A comparison is printed as a whole or not at all, and never writes to a file. It fails
exactly if something named cannot be read, the configurations differ or a rule that applies to
the target cannot be built. Otherwise everything that the check of the pair reports is
there: as JSON all of it in any case, for whoever reads the text, as text a line for each report
that is shown, which tells all of it, and in both a summary of all reports. Fitting a profile
that cannot be read leaves no trace either. -/
theorem diff_whole_or_nothing [Json.NumberReader] [Tally Float] (files : Files) :
    (∀ baseline target settings format verbose,
      let result := (diff baseline target settings format verbose).outcome files
      result.written = none ∧
      (result.exitCode ≠ 0 ↔ Obstructed files baseline target settings) ∧
      (result.exitCode ≠ 0 → result.output = "") ∧
      (result.exitCode = 0 → ∃ chosen before after reports,
        Settles files settings chosen ∧ Describes files baseline before ∧
        Describes files target after ∧
        chosen.checkPair before.profile after.profile = .ok reports ∧
        let summary := ChangeSummary.ofReports reports
        summary.total = reports.length ∧
        (format = .json →
          result.output = (Json.Value.object [
            ("configuration", after.profile.configuration.toJson),
            ("summary", summary.toJson),
            ("reports", .array (reports.map (·.toJson)))]).pretty ++ "\n" ∧
          summary.toJson = .object [("counts", .object
            ((ChangeSummary.occurring reports ChangeKind.written).map fun (kind, count) =>
              (kind.name, .count count)))] ∧
          (∀ reader : Json.NumberReader, @Json.decodeText reader _ reportsShape.decode
            result.output = reports.mapM (@ChangeReport.reread reader)) ∧
          ∀ reader : Json.NumberReader, @Json.LawfulNumberReader reader →
            @Json.decodeText reader _ reportsShape.decode result.output =
              .ok (reports.map (·.told))) ∧
        (format = .text →
          result.output = after.profile.configuration.display ++ "\n" ++
            String.join ((reports.filter fun report =>
              verbose = true ∨ report.kind ≠ .noChange ∧ report.kind ≠ .unknown).map (·.line)) ++
            "Summary: " ++ summary.display ++ "\n" ∧
          (∀ report ∈ reports, report.ToldBy report.line) ∧
          Function.Injective ChangeKind.label ∧
          summary.display = if reports.isEmpty then "no changes checked"
            else ", ".intercalate ((ChangeSummary.occurring reports ChangeKind.all).map
              fun (kind, count) => toString count ++ " " ++ kind.label)))) ∧
    ∀ profile output, (¬ ∃ document, Describes files profile document) →
      let result := (fit profile output).outcome files
      result.exitCode ≠ 0 ∧ result.output = "" ∧ result.written = none := by
  constructor
  · intro baseline target settings format verbose result
    cases compare : compared files baseline target settings format verbose with
    | error complaint =>
      have failed : result = .failure complaint := by
        simp only [result, outcome, compare]
      have obstructed : Obstructed files baseline target settings := by
        by_contra free
        obtain ⟨output, done⟩ := exists_compared_of_not_obstructed free
        rw [compare] at done
        cases done
      rw [failed]
      exact ⟨rfl, ⟨fun _ => obstructed, fun _ => Nat.one_ne_zero⟩, fun _ => rfl, nofun⟩
    | ok output =>
      have succeeded : result = .success output := by
        simp only [result, outcome, compare]
      have free := not_obstructed_of_compared compare
      obtain ⟨chosen, before, after, reports, settles, old, new, _, checked, rfl⟩ :=
        checked_of_compared compare
      rw [succeeded]
      refine ⟨rfl, ⟨fun failed => absurd rfl failed, fun obstructed => absurd obstructed free⟩,
        fun failed => absurd rfl failed, fun _ => ⟨chosen, before, after, reports, settles, old, new,
          checked, ChangeSummary.total_ofReports reports, ?_, ?_⟩⟩
      · rintro rfl
        have read (reader : Json.NumberReader) :=
          @decodeText_comparison reader after.profile reports
        exact ⟨rfl, ChangeSummary.toJson_ofReports reports, read, fun reader lawful =>
          (read reader).trans (@ChangeReport.mapM_reread_eq reader lawful reports)⟩
      · rintro rfl
        refine ⟨?_, fun report _ => report.toldBy_line, ChangeKind.label_injective,
          ChangeSummary.display_ofReports reports⟩
        rw [← ChangeReport.render_eq]
        rfl
  · intro profile output unread result
    obtain ⟨complaint, failed⟩ := outcome_of_unread output unread
    have same : result = .failure complaint := failed
    rw [same]
    exact ⟨Nat.one_ne_zero, rfl, rfl⟩

/-- Two recordings of one command and one of another. -/
def runs : Files where
  content? path :=
    if path = "old.json" then some "[[\"time\",\"a\"],[\"time\"],[],[[\"u\",1,2.0]]]"
    else if path = "new.json" then some "[[\"time\",\"a\"],[\"time\"],[],[[\"u\",1,6.0]]]"
    else if path = "other.json" then some "[[\"time\",\"b\"],[\"time\"],[],[[\"u\",1,2.0]]]"
    else none
  isWritable _ := true

open scoped Lanes Json.Stepwise

theorem diff_whole_or_nothing_runs :
    let told := (diff "old.json" "new.json" none .json false).outcome runs
    let shown := (diff "old.json" "new.json" none .text false).outcome runs
    let refused := (diff "old.json" "other.json" none .text true).outcome runs
    let lost := (fit "lost.json" (some "old.json")).outcome runs
    (told.exitCode = 0 ∧ ∃ chosen before after reports, Settles runs none chosen ∧
      Describes runs "old.json" before ∧ Describes runs "new.json" after ∧
      chosen.checkPair before.profile after.profile = .ok reports ∧
      told.output = (comparisonJson after.profile reports).pretty ++ "\n" ∧
      @Json.decodeText .nearest _ reportsShape.decode told.output = .ok (reports.map (·.told))) ∧
    (shown.exitCode = 0 ∧ ∃ after reports, Describes runs "new.json" after ∧
      shown.output = comparisonText after.profile reports false ∧
      ∀ report ∈ reports, report.ToldBy report.line) ∧
    (refused.exitCode ≠ 0 ∧ refused.output = "" ∧
      Obstructed runs "old.json" "other.json" none) ∧
    (¬ ∃ document, Describes runs "lost.json" document) ∧ lost.written = none := by
  intro told shown refused lost
  obtain ⟨compares, fits⟩ := diff_whole_or_nothing runs
  have unread : ¬ ∃ document, Describes runs "lost.json" document := by
    rintro ⟨document, text, held, _⟩
    cases held
  refine ⟨?_, ?_, ?_, unread, (fits "lost.json" (some "old.json") unread).2.2⟩
  · obtain ⟨_, _, _, whole⟩ := compares "old.json" "new.json" none .json false
    have succeeds : told.exitCode = 0 := by decide +kernel
    obtain ⟨chosen, before, after, reports, settles, old, new, checked, _, json, _⟩ :=
      whole succeeds
    obtain ⟨written, _, _, read⟩ := json rfl
    exact ⟨succeeds, chosen, before, after, reports, settles, old, new, checked, written,
      read .nearest Json.Nearest.lawful⟩
  · obtain ⟨_, _, _, whole⟩ := compares "old.json" "new.json" none .text false
    have succeeds : shown.exitCode = 0 := by decide +kernel
    obtain ⟨_, _, after, reports, _, _, new, _, _, _, text⟩ := whole succeeds
    obtain ⟨written, lines, _, _⟩ := text rfl
    refine ⟨succeeds, after, reports, new, written.trans ?_, lines⟩
    rw [← ChangeReport.render_eq]
    rfl
  · obtain ⟨_, obstructed, nothing, _⟩ := compares "old.json" "other.json" none .text true
    have fails : refused.exitCode ≠ 0 := by decide +kernel
    exact ⟨fails, nothing fails, obstructed.mp fails⟩

example : ((diff "old.json" "new.json" none .text false).outcome runs).output =
    "time for cmd: '$ a'\n  ❌ Degradation at u: 2.00 -> 6.00 (ratio, rate 3.00) " ++
      "[average_amount_threshold]\nSummary: 1 Degradation\n" := by
  decide +kernel

end Command

end ProfileDrift
