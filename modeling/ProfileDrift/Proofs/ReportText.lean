import ProfileDrift.Change.Codec
import ProfileDrift.Proofs.KeptValue
import ProfileDrift.Proofs.ProfileContent

namespace ProfileDrift

open Decode (Form Shape Tree)
open Json (NumberReader Value)

theorem written_eq_self_iff {value : Float} :
    written value = some value ↔ value.isFinite = true := by
  unfold written
  split
  · rename_i finite
    exact ⟨fun _ => finite, fun _ => rfl⟩
  · rename_i other
    exact ⟨nofun, fun finite => absurd finite other⟩

namespace Decode

variable [NumberReader]

/-- What is read where a number was written, if one was. -/
def reread : Option Float → Except Problem (Option Float)
  | none => .ok none
  | some value => optional number .text (Value.quantity value).reread

/-- A number is read again exactly if it is finite, since null is written for others, and the
reader reads the double back as it was printed. -/
theorem reread_eq_self_iff {given : Option Float} :
    reread given = .ok given ↔ ∀ value, given = some value →
      value.isFinite = true ∧ NumberReader.reread? (.decimal value) = some (.decimal value) := by
  cases given with
  | none => exact ⟨fun _ => nofun, fun _ => rfl⟩
  | some value =>
    have single : (∀ other, some value = some other →
        other.isFinite = true ∧ NumberReader.reread? (.decimal other) = some (.decimal other)) ↔
          value.isFinite = true ∧ NumberReader.reread? (.decimal value) = some (.decimal value) := by
      refine ⟨fun all => all value rfl, ?_⟩
      rintro here _ ⟨⟩
      exact here
    rw [single, reread, Value.quantity, Value.reread]
    split
    · rename_i finite
      rw [and_iff_right finite]
      rcases NumberReader.reread?_decimal finite with none | ⟨other, same⟩
      · rw [none]
        exact ⟨nofun, nofun⟩
      · rw [same]
        refine ⟨fun read => ?_, fun read => ?_⟩
        · cases read
          rfl
        · cases read
          rfl
    · rename_i other
      exact ⟨nofun, fun here => absurd here.1 other⟩

/-- A lawful reader loses no number but those for which null was written. -/
theorem reread_eq [Json.LawfulNumberReader] (given : Option Float) :
    reread given = .ok (given.bind written) := by
  cases given with
  | none => rfl
  | some value =>
    have told : (Value.quantity value).reread = Decode.ofValue (Value.quantity value).plain :=
      Value.reread_eq _ trivial
    rw [reread, told, Value.plain_quantity, Option.bind_some]
    cases written value <;> rfl

end Decode

namespace ChangeReport

/-- The report as its text tells it: of a number that is not finite nothing is told. -/
def told (report : ChangeReport Float) : ChangeReport Float :=
  { report with
    confidence := report.confidence.bind written
    rate := report.rate.bind written }

theorem bind_written_eq_self_iff {number : Option Float} :
    number.bind written = number ↔ ∀ value, number = some value → value.isFinite = true := by
  cases number with
  | none => exact ⟨fun _ => nofun, fun _ => rfl⟩
  | some value =>
    refine written_eq_self_iff.trans ⟨?_, fun finite => finite value rfl⟩
    rintro finite _ ⟨⟩
    exact finite

theorem told_eq_iff {report : ChangeReport Float} :
    report.told = report ↔
      (∀ confidence, report.confidence = some confidence → confidence.isFinite = true) ∧
        ∀ rate, report.rate = some rate → rate.isFinite = true := by
  rw [← bind_written_eq_self_iff, ← bind_written_eq_self_iff]
  refine ⟨fun same => ⟨congrArg confidence same, congrArg rate same⟩, fun ⟨confident, rated⟩ => ?_⟩
  rw [told, confident, rated]

section Reread

variable [NumberReader]

/-- What is read where the report was written: the report but for its numbers, which are what the
reader makes of them. -/
def reread (report : ChangeReport Float) : Except Decode.Problem (ChangeReport Float) := do
  let confidence ← Decode.reread report.confidence
  let rate ← Decode.reread report.rate
  return { report with confidence, rate }

theorem reread_eq_self_iff {report : ChangeReport Float} :
    report.reread = .ok report ↔
      Decode.reread report.confidence = .ok report.confidence ∧
        Decode.reread report.rate = .ok report.rate := by
  unfold reread
  cases Decode.reread report.confidence with
  | error problem => exact ⟨nofun, nofun⟩
  | ok confidence =>
    cases Decode.reread report.rate with
    | error problem => exact ⟨nofun, nofun⟩
    | ok rate =>
      refine ⟨fun read => ?_, fun ⟨confident, rated⟩ => ?_⟩
      · have same := Except.ok.inj read
        exact ⟨congrArg (fun read : ChangeReport Float => Except.ok read.confidence) same,
          congrArg (fun read : ChangeReport Float => Except.ok read.rate) same⟩
      · cases confident
        cases rated
        rfl

theorem reread_eq [Json.LawfulNumberReader] (report : ChangeReport Float) :
    report.reread = .ok report.told := by
  rw [reread, Decode.reread_eq, Decode.reread_eq]
  rfl

/-- A member that may be left out is read into its field, or the field stays as it was; the
others follow either way. -/
theorem ofEntries_present {β : Type} {form : Form} {field : Decode.Field (ChangeReport Float)}
    {name : String} {write : β → Value} {value : Option β} {others : List (String × Value)}
    {record : ChangeReport Float} {next : Except Decode.Problem (ChangeReport Float)}
    {last : ChangeReport Float → Except Decode.Problem (ChangeReport Float)}
    {seen : List String}
    (known : shape.fields.find? (·.answersTo name) = some field)
    (fresh : seen.contains field.name = false)
    (put : ∀ given, value = some given → field.put form (write given).reread record = next)
    (absent : value = none → next = .ok record)
    (rest : ∀ record met, next = .ok record → met = seen ∨ met = field.name :: seen →
      shape.ofEntries form record met (Value.rereadMembers others) = last record) :
    shape.ofEntries form record seen (Value.rereadMembers (present name write value ++ others)) =
      next >>= last := by
  cases value with
  | none =>
    rw [absent rfl]
    exact rest record seen (absent rfl) (.inl rfl)
  | some given =>
    refine (Shape.ofEntries_more known fresh).trans ?_
    rw [put given rfl]
    cases next with
    | error problem => rfl
    | ok next => exact rest next _ rfl (.inr rfl)

/-- The report without the members that may be left out. -/
def bare (report : ChangeReport Float) : ChangeReport Float :=
  { report with confidence := none, confidenceType := none, rate := none }

/-- The members that may be left out are read into a report that has none of them. Which names
were met at the end depends on what the report has. -/
theorem ofEntries_bare {form : Form} (report : ChangeReport Float) :
    shape.ofEntries form report.bare ["target_value", "baseline_value", "location",
        "change_subtype", "change_kind", "method"]
      (Value.rereadMembers (present "confidence" .quantity report.confidence ++
        (present "confidence_type" .text report.confidenceType ++
          (present "rate" .quantity report.rate ++ [])))) =
      report.reread := by
  have steps : report.reread =
      (Decode.reread report.confidence).map (fun confidence => { report.bare with confidence }) >>=
        fun record => Except.ok { record with confidenceType := report.confidenceType } >>=
        fun record => (Decode.reread report.rate).map (fun rate => { record with rate }) >>=
        Except.ok := by
    unfold reread
    cases Decode.reread report.confidence with
    | error problem => rfl
    | ok confidence => cases Decode.reread report.rate <;> rfl
  rw [steps]
  refine ofEntries_present rfl rfl (fun value same => by rw [same]; rfl)
    (fun none => by rw [none]; rfl) fun record met kept known => ?_
  obtain ⟨confidence, -, rfl⟩ := map_eq_ok kept
  rcases known with rfl | rfl <;>
    refine ofEntries_present rfl rfl (fun value same => by rw [same]; rfl)
      (fun none => by rw [none]; rfl) ?_ <;>
    rintro _ _ ⟨⟩ (rfl | rfl) <;>
    exact ofEntries_present rfl rfl (fun value same => by rw [same]; rfl)
      (fun none => by rw [none]; rfl) (by rintro _ _ - (rfl | rfl) <;> rfl)

/-- The text of a report is read member by member. -/
theorem decode_reread_toJson {form : Form} (report : ChangeReport Float) :
    shape.decode form report.toJson.reread = report.reread := by
  have kind : ChangeKind.decoder form (.text (some report.kind.name)) = .ok report.kind := by
    cases report.kind <;> rfl
  rw [toJson, List.append_assoc, List.append_assoc, ← List.append_nil (present "rate" _ _),
    Value.reread]
  change shape.ofEntries form shape.blank [] _ = _
  refine Shape.ofEntries_member rfl rfl rfl ?_
  refine Shape.ofEntries_member rfl rfl (Decode.Field.put_of _ _ _ _ kind) ?_
  refine Shape.ofEntries_member rfl rfl rfl ?_
  refine Shape.ofEntries_member rfl rfl rfl ?_
  refine Shape.ofEntries_member rfl rfl rfl ?_
  exact Shape.ofEntries_member rfl rfl rfl report.ofEntries_bare

theorem decode_reread_list {form : Form} (reports : List (ChangeReport Float)) :
    Decode.list shape.decode form (Value.array (reports.map toJson)).reread =
      reports.mapM reread := by
  change Decode.itemsOf (shape.decode form) (Value.rereads (reports.map toJson)) = _
  induction reports with
  | nil => rfl
  | cons report reports ih =>
    rw [List.map_cons, Value.rereads, Decode.itemsOf, decode_reread_toJson, List.mapM_cons, ih]
    cases report.reread with
    | error problem => rfl
    | ok first => cases reports.mapM reread <;> rfl

/-- Reading the text of reports is reading each of them again. -/
theorem decodeText_compact (reports : List (ChangeReport Float)) :
    Json.decodeText (Decode.list shape.decode) (Value.array (reports.map toJson)).compact =
      reports.mapM reread :=
  (Value.decodeText_of_tree (Json.Value.tree_compact _) _).trans
    (decode_reread_list reports)

theorem decodeText_pretty (reports : List (ChangeReport Float)) {blanks : List Char}
    (blank : Json.AllBlank blanks) :
    Json.decodeText (Decode.list shape.decode)
      ((Value.array (reports.map toJson)).pretty ++ String.ofList blanks) =
        reports.mapM reread :=
  (Value.decodeText_of_tree (Json.Value.tree_pretty _ blank) _).trans
    (decode_reread_list reports)

theorem mapM_reread_eq_self_iff {reports : List (ChangeReport Float)} :
    reports.mapM reread = .ok reports ↔ ∀ report ∈ reports, report.reread = .ok report := by
  induction reports with
  | nil => exact ⟨fun _ => nofun, fun _ => rfl⟩
  | cons report reports ih =>
    rw [List.mapM_cons, List.forall_mem_cons, ← ih]
    cases report.reread with
    | error problem => exact ⟨nofun, nofun⟩
    | ok first =>
      cases reports.mapM reread with
      | error problem => exact ⟨nofun, nofun⟩
      | ok others =>
        refine ⟨fun read => ?_, fun ⟨same, all⟩ => ?_⟩
        · obtain ⟨same, all⟩ := List.cons.inj (Except.ok.inj read)
          exact ⟨congrArg Except.ok same, congrArg Except.ok all⟩
        · cases same
          cases all
          rfl

theorem mapM_reread_eq [Json.LawfulNumberReader] (reports : List (ChangeReport Float)) :
    reports.mapM reread = .ok (reports.map told) := by
  have each : reread = fun report => pure report.told := funext reread_eq
  rw [each, List.mapM_pure]
  rfl

end Reread

theorem map_told_eq_iff {reports : List (ChangeReport Float)} :
    reports.map told = reports ↔ ∀ report ∈ reports, report.told = report := by
  have same : reports.map told = reports.map id ↔ ∀ report ∈ reports, report.told = report :=
    List.map_inj_left
  rwa [List.map_id] at same

end ChangeReport

end ProfileDrift
