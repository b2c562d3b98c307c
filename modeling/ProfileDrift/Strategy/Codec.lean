import ProfileDrift.Json.Keep
import ProfileDrift.Strategy.Settings
import ProfileDrift.Toml.Reader

namespace ProfileDrift

open Decode (Shape Field Decoder)
open Json (Value)

def ApplyMode.decoder : Decoder ApplyMode := Decode.choice ["first", "all"] ApplyMode.ofName?

def Rule.shape : Shape (Rule Float) :=
  { name := "StrategyRule"
    blank := .always ""
    strict := true
    fields := [
      .of "type" .defaulted (Decode.optional Decode.text)
        fun rule value => { rule with resourceType := value },
      .of "cmd" .defaulted (Decode.optional Decode.text)
        fun rule value => { rule with command := value },
      .of "collector" .defaulted (Decode.optional Decode.text)
        fun rule value => { rule with collector := value },
      .of "workload" .defaulted (Decode.optional Decode.text)
        fun rule value => { rule with workload := value },
      .of "postprocessor" .defaulted (Decode.optional Decode.text)
        fun rule value => { rule with postprocessor := value },
      .of "method" .required Decode.text fun rule value => { rule with method := value },
      .of "params" .defaulted (Decode.named Decode.number)
        fun rule value => { rule with params := .ofList value }] }

namespace Settings

/-- The section of a settings file that concerns checks. -/
def sectionShape : Shape (Settings Float) :=
  { name := "DegradationConfig"
    blank := .blank
    strict := true
    fields := [
      .of "apply" .defaulted ApplyMode.decoder
        fun settings value => { settings with mode := value },
      .of "strategies" .defaulted (Decode.list Rule.shape.decode)
        fun settings value => { settings with rules := value }] }

/-- A settings file; other sections than the one on checks are passed over. -/
def shape : Shape (Settings Float) :=
  { name := "CheckConfig"
    blank := .blank
    strict := false
    fields := [.of "degradation" .defaulted sectionShape.decode fun _ value => value] }

def decoder : Decoder (Settings Float) := shape.decode

def ofValue (value : Value) : Except Decode.Problem (Settings Float) :=
  Json.decodeValue decoder value

def ofText (text : String) : Except Decode.Problem (Settings Float) :=
  Toml.decodeText decoder text

/-- Conditions and parameters that are absent are not written. -/
def ruleToJson (rule : Rule Float) : Value :=
  let condition (name : String) : Option String → List (String × Value)
    | some value => [(name, .text value)]
    | none => []
  .object (
    condition "type" rule.resourceType ++
    condition "cmd" rule.command ++
    condition "collector" rule.collector ++
    condition "workload" rule.workload ++
    condition "postprocessor" rule.postprocessor ++
    [("method", .text rule.method)] ++
    (if rule.params.isEmpty then []
     else [("params", .object (rule.params.map .quantity).entries)]))

def toJson (settings : Settings Float) : Value :=
  .object [("degradation", .object [
    ("apply", .text settings.mode.name),
    ("strategies", .array (settings.rules.map ruleToJson))])]

end Settings

end ProfileDrift
