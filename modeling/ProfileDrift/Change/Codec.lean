import ProfileDrift.Change.Summary
import ProfileDrift.Json.Keep
import ProfileDrift.Json.Printer

namespace ProfileDrift

open Decode (Shape Field Decoder)
open Json (Value)

def ChangeKind.decoder : Decoder ChangeKind :=
  Decode.choice (ChangeKind.written.map (·.name)) ChangeKind.ofName?

namespace ChangeReport

def shape : Shape (ChangeReport Float) :=
  { name := "ChangeReport"
    blank := .undetermined "" "" ""
    strict := false
    fields := [
      .of "method" .required Decode.text fun report value => { report with method := value },
      .of "change_kind" .required ChangeKind.decoder
        fun report value => { report with kind := value },
      .of "change_subtype" .required Decode.text
        fun report value => { report with subtype := value },
      .of "location" .required Decode.text fun report value => { report with location := value },
      .of "baseline_value" .required Decode.text
        fun report value => { report with baselineValue := value },
      .of "target_value" .required Decode.text
        fun report value => { report with targetValue := value },
      .of "confidence" .optional (Decode.optional Decode.number)
        fun report value => { report with confidence := value },
      .of "confidence_type" .optional (Decode.optional Decode.text)
        fun report value => { report with confidenceType := value },
      .of "rate" .optional (Decode.optional Decode.number)
        fun report value => { report with rate := value }] }

def listOfValue (value : Value) : Except Decode.Problem (List (ChangeReport Float)) :=
  Json.decodeValue (Decode.list shape.decode) value

/-- A member that is written only if there is something to write. -/
def present {β : Type} (name : String) (write : β → Value) : Option β → List (String × Value)
  | some value => [(name, write value)]
  | none => []

def toJson (report : ChangeReport Float) : Value :=
  .object ([
    ("method", .text report.method),
    ("change_kind", .text report.kind.name),
    ("change_subtype", .text report.subtype),
    ("location", .text report.location),
    ("baseline_value", .text report.baselineValue),
    ("target_value", .text report.targetValue)] ++
    present "confidence" .quantity report.confidence ++
    present "confidence_type" .text report.confidenceType ++
    present "rate" .quantity report.rate)

end ChangeReport

/-- Only kinds that occur are written. -/
def ChangeSummary.toJson (summary : ChangeSummary) : Value :=
  .object [("counts", .object
    ((summary.present ChangeKind.written).map fun (kind, count) => (kind.name, .count count)))]

end ProfileDrift
