import ProfileDrift.Json.Keep
import ProfileDrift.Json.Printer
import ProfileDrift.Profile.Document

namespace ProfileDrift

open Decode (Shape Field Decoder)
open Json (Value)

def Family.decoder : Decoder Family := Decode.choice Family.callNames Family.ofName?

def Header.blank : Header := ⟨"", "", "", "", .empty⟩

def Header.shape : Shape Header :=
  { name := "ProfileHeader"
    blank := .blank
    strict := false
    fields := [
      .of "type" .required Decode.text fun header value => { header with resourceType := value },
      .of "cmd" .defaulted Decode.text fun header value => { header with command := value },
      (Field.of "args" .defaulted Decode.text
        fun header value => { header with arguments := value }).orNamed "params",
      .of "workload" .defaulted Decode.text fun header value => { header with workload := value },
      .of "units" .defaulted (Decode.named Decode.text)
        fun header value => { header with units := .ofList value }] }

/-- A step inside so many containers of its text. -/
def Step.shape (depth : Nat) : Shape Step :=
  { name := "UnitInfo"
    blank := .plain ""
    strict := false
    fields := [
      .of "name" .required Decode.text fun step value => { step with name := value },
      .of "params" .defaulted (Decode.named (Json.keeper (depth + 2)))
        fun step value => { step with params := .ofList value }] }

def ResourceRecord.shape : Shape (ResourceRecord Float) :=
  { name := "ResourceRecord"
    blank := ⟨"", 0.0, 0.0⟩
    strict := false
    fields := [
      .of "uid" .required Decode.text fun record value => { record with uid := value },
      .of "structure-unit-size" .defaulted Decode.number
        fun record value => { record with size := value },
      .of "amount" .required Decode.number fun record value => { record with amount := value }] }

def ModelRecord.shape : Shape (ModelRecord Float) :=
  { name := "ModelRecord"
    blank := ⟨"", .constant, [], 0.0, 0.0, 0.0⟩
    strict := false
    fields := [
      .of "uid" .required Decode.text fun record value => { record with uid := value },
      .of "model" .required Family.decoder fun record value => { record with family := value },
      .of "coeffs" .required (Decode.list Decode.number)
        fun record value => { record with coefficients := value },
      .of "r_square" .required Decode.number fun record value => { record with rSquare := value },
      .of "x_start" .required Decode.number fun record value => { record with xStart := value },
      .of "x_end" .required Decode.number fun record value => { record with xEnd := value }] }

def Document.shape : Shape (Document Float) :=
  { name := "ProfileDocument"
    blank := ⟨.blank, .plain "", [], [], []⟩
    strict := false
    fields := [
      .of "header" .required Header.shape.decode
        fun document value => { document with header := value },
      .of "collector_info" .required (Step.shape 1).decode
        fun document value => { document with collector := value },
      .of "postprocessors" .defaulted (Decode.list (Step.shape 2).decode)
        fun document value => { document with postprocessors := value },
      .of "resources" .defaulted (Decode.list ResourceRecord.shape.decode)
        fun document value => { document with resources := value },
      .of "models" .defaulted (Decode.list ModelRecord.shape.decode)
        fun document value => { document with models := value }] }

def Document.decoder : Decoder (Document Float) := Document.shape.decode

namespace Document

/-- A map of names is written in the order of the names. -/
def mapToJson (map : Keyed Value) : Value := .object map.entries

def stepToJson (step : Step) : Value :=
  .object (("name", .text step.name) ::
    (if step.params.isEmpty then [] else [("params", mapToJson step.params)]))

def headerToJson (header : Header) : Value :=
  .object [
    ("type", .text header.resourceType),
    ("cmd", .text header.command),
    ("args", .text header.arguments),
    ("workload", .text header.workload),
    ("units", mapToJson (header.units.map .text))]

def resourceToJson (record : ResourceRecord Float) : Value :=
  .object [
    ("uid", .text record.uid),
    ("structure-unit-size", .quantity record.size),
    ("amount", .quantity record.amount)]

def modelToJson (record : ModelRecord Float) : Value :=
  .object [
    ("uid", .text record.uid),
    ("model", .text record.family.name),
    ("coeffs", .array (record.coefficients.map .quantity)),
    ("r_square", .quantity record.rSquare),
    ("x_start", .quantity record.xStart),
    ("x_end", .quantity record.xEnd)]

/-- The document as a JSON value, fields in the order in which they are declared.
Parameters and models are left out when there are none. -/
def toJson (document : Document Float) : Value :=
  .object ([
    ("header", headerToJson document.header),
    ("collector_info", stepToJson document.collector),
    ("postprocessors", .array (document.postprocessors.map stepToJson)),
    ("resources", .array (document.resources.map resourceToJson))] ++
    (if document.models.isEmpty then []
     else [("models", .array (document.models.map modelToJson))]))

def ofText [Json.NumberReader] (text : String) : Except Decode.Problem (Document Float) :=
  Json.decodeText Document.decoder text

def ofValue (value : Value) : Except Decode.Problem (Document Float) :=
  Json.decodeValue Document.decoder value

end Document

def Configuration.toJson (configuration : Configuration) : Value :=
  .object [
    ("collector", .text configuration.collector),
    ("command", .text configuration.command),
    ("args", .text configuration.arguments),
    ("workload", .text configuration.workload),
    ("postprocessors", .texts configuration.postprocessors)]

end ProfileDrift
