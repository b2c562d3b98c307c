import ProfileDrift.Decimal.Notation
import ProfileDrift.Decode.Tree
import ProfileDrift.Text.Shown

namespace ProfileDrift.Decode

open Json (Number)

/-- Where a tree comes from. Some faults are possible in one form only, and some
are worded differently. -/
inductive Form where
  | text
  /-- A JSON value that was read completely before. -/
  | value
  | settings
  deriving DecidableEq

/-- What stands in a tree where something else is expected. -/
inductive Found where
  | null
  | boolean (value : Bool)
  | number (value : Number)
  | text (value : String)
  | moment
  | sequence
  /-- A sequence of tables that were gathered under headers. -/
  | gathered
  | table

inductive Problem where
  /-- The text breaks the rules of its notation. -/
  | malformed
  | missingField (name : String)
  | duplicateField (name : String)
  | unknownField (name : String) (known : List String)
  | unknownVariant (name : String) (known : List String)
  | wrongType (found : Found) (expected : String)
  | wrongLength (length : Nat) (expected : String)
  /-- A choice is written neither as a name nor as a table. -/
  | notChoice
  /-- A choice is written as a table, which needs a single entry. -/
  | notSingle (entries : Nat)
  /-- A choice is written as a table whose entry holds something. -/
  | payload (found : Found)

/-- The decimal digits of a number between marks that set it off. -/
def marked (text : String) : String := "`" ++ text ++ "`"

/-- In JSON a number is shown as it would be written there, in settings never
with an exponent. -/
def Found.message (form : Form) : Found → String
  | null => "null"
  | boolean value => "boolean " ++ marked (if value then "true" else "false")
  | number (.integer value) => "integer " ++ marked (String.ofList (Decimal.integerText value))
  | number (.decimal value) =>
    "floating point " ++ marked (String.ofList
      (if form = .settings then Decimal.positionalText value else Decimal.shortestText value))
  | text value => "string " ++ Text.shown value
  | sequence | gathered => "sequence"
  | moment | table => "map"

/-- The names that would have been accepted: one, either of two, or one of many. -/
def choices : List String → String
  | [] => "there are none"
  | [only] => marked only
  | [first, second] => marked first ++ " or " ++ marked second
  | many => "one of " ++ ", ".intercalate (many.map marked)

/-- What a settings value is called where a table is expected. -/
def Found.kind : Found → String
  | null => "none"
  | boolean _ => "boolean"
  | number (.integer _) => "integer"
  | number (.decimal _) => "float"
  | text _ => "string"
  | moment => "datetime"
  | sequence => "array"
  | gathered => "array of tables"
  | table => "table"

def Problem.message (form : Form) : Problem → String
  | malformed => "malformed text"
  | missingField name => "missing field " ++ marked name
  | duplicateField name => "duplicate field " ++ marked name
  | unknownField name known => "unknown field " ++ marked name ++ ", expected " ++ choices known
  | unknownVariant name known =>
    "unknown variant " ++ marked name ++ ", expected " ++ choices known
  | wrongType found expected =>
    "invalid type: " ++ found.message form ++ ", expected " ++ expected
  | wrongLength length expected => s!"invalid length {length}, expected {expected}"
  | notChoice => "wanted string or table"
  | notSingle entries =>
    if form = .settings then
      if entries = 0 then "wanted exactly 1 element, found 0 elements"
      else "wanted exactly 1 element, more than 1 element"
    else "invalid value: map, expected map with a single key"
  | payload .gathered => "expected empty array"
  | payload .sequence | payload .table => "expected empty table"
  | payload found => "expected table, found " ++ found.kind

end ProfileDrift.Decode
