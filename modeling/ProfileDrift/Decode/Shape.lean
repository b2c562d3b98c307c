import ProfileDrift.Decode.Problem

namespace ProfileDrift.Decode

open Json (Number)

abbrev Decoder (β : Type) := Form → Tree → Except Problem β

mutual

/-- Passes over a value that nobody asks for. It only has to be well written:
numbers may exceed every double and texts may hold half of a surrogate pair. -/
def skip : Tree → Except Problem Unit
  | .sequence items | .gathered items => skipItems items
  | .table entries => skipEntries entries
  | .unreadable => .error .malformed
  | _ => .ok ()

def skipItems : Items → Except Problem Unit
  | .closed => .ok ()
  | .broken => .error .malformed
  | .more item rest =>
    match skip item with
    | .ok () => skipItems rest
    | .error problem => .error problem

def skipEntries : Entries → Except Problem Unit
  | .closed => .ok ()
  | .broken => .error .malformed
  | .more _ value rest =>
    match skip value with
    | .ok () => skipEntries rest
    | .error problem => .error problem

end

/-- The problem of a tree that is none of the things expected. A scalar has to
be readable before it can be the wrong one; of a sequence or a table only the
opening bracket is looked at. -/
def mismatch (expected : String) : Tree → Problem
  | .null => .wrongType .null expected
  | .boolean value => .wrongType (.boolean value) expected
  | .number (some value) => .wrongType (.number value) expected
  | .text (some value) => .wrongType (.text value) expected
  | .sequence _ => .wrongType .sequence expected
  | .gathered _ => .wrongType .gathered expected
  | .table _ => .wrongType .table expected
  | .moment _ => .wrongType .moment expected
  | .number none | .text none | .unreadable => .malformed

/-- The items of a sequence, however it is written. -/
def items? : Tree → Option Items
  | .sequence items | .gathered items => some items
  | _ => none

/-- The entries of a table; a moment holds its text under a name of its own. -/
def entries? : Tree → Option Entries
  | .table entries => some entries
  | .moment value => some (.more (some momentName) (.text (some value)) .closed)
  | _ => none

def text : Decoder String := fun _ tree =>
  match tree with
  | .text (some value) => .ok value
  | other => .error (mismatch "a string" other)

def number : Decoder Float := fun _ tree =>
  match tree with
  | .number (some value) => .ok value.toFloat
  | other => .error (mismatch "f64" other)

/-- Null stands for an absent value. -/
def optional {β : Type} (decode : Decoder β) : Decoder (Option β) := fun form tree =>
  match tree with
  | .null => .ok none
  | other => (decode form other).map some

def itemsOf {β : Type} (decode : Tree → Except Problem β) : Items → Except Problem (List β)
  | .closed => .ok []
  | .broken => .error .malformed
  | .more item rest =>
    match decode item with
    | .ok value => (itemsOf decode rest).map (value :: ·)
    | .error problem => .error problem

def list {β : Type} (decode : Decoder β) : Decoder (List β) := fun form tree =>
  match items? tree with
  | some items => itemsOf (decode form) items
  | none => .error (mismatch "a sequence" tree)

def entriesOf {β : Type} (decode : Tree → Except Problem β) :
    Entries → Except Problem (List (String × β))
  | .closed => .ok []
  | .broken | .more none _ _ => .error .malformed
  | .more (some name) tree rest =>
    match decode tree with
    | .ok value => (entriesOf decode rest).map ((name, value) :: ·)
    | .error problem => .error problem

/-- A table whose names are free, in the order in which it is written. -/
def named {β : Type} (decode : Decoder β) : Decoder (List (String × β)) := fun form tree =>
  match entries? tree with
  | some entries => entriesOf (decode form) entries
  | none => .error (mismatch "a map" tree)

/-- The table that stands for a choice without content has no content. -/
def emptyPayload (form : Form) (tree : Tree) : Except Problem Unit :=
  match form, tree with
  | .settings, .sequence .closed | .settings, .gathered .closed | .settings, .table .closed =>
    .ok ()
  | .settings, .boolean value => .error (.payload (.boolean value))
  | .settings, .number (some value) => .error (.payload (.number value))
  | .settings, .text (some value) => .error (.payload (.text value))
  | .settings, .moment _ => .error (.payload .moment)
  | .settings, .sequence _ => .error (.payload .sequence)
  | .settings, .gathered _ => .error (.payload .gathered)
  | .settings, _ => .error (.payload .table)
  | _, .null => .ok ()
  | _, other => .error (mismatch "unit" other)

/-- One of finitely many names. A choice may also be written as a table with the
name as its only entry and nothing inside. -/
def choice {β : Type} (known : List String) (ofName : String → Option β) : Decoder β :=
  fun form tree =>
    let named (name : String) : Except Problem β :=
      match ofName name with
      | some value => .ok value
      | none => .error (.unknownVariant name known)
    match tree, form with
    | .text (some name), _ => named name
    | .table (.more (some name) value .closed), _ => do
      let chosen ← named name
      emptyPayload form value
      return chosen
    | .table (.more (some name) value _), .text => do
      let _ ← named name
      emptyPayload form value
      .error .malformed
    | _, .text => .error .malformed
    | .table .closed, _ => .error (.notSingle 0)
    | .table _, _ => .error (.notSingle 2)
    | _, .settings => .error .notChoice
    | other, .value => .error (mismatch "string or map" other)

/-- May a field of a record be left out? -/
inductive Presence where
  | required
  /-- It may be left out of a table but not from the end of a sequence. -/
  | optional
  /-- It has a value of its own when it is left out. -/
  | defaulted
  deriving DecidableEq

/-- A field of a record: its names, whether it may be left out, and how it is
put into the record. -/
structure Field (ρ : Type) where
  name : String
  aliases : List String
  presence : Presence
  put : Form → Tree → ρ → Except Problem ρ

/-- How a record is written. The blank record holds the defaults; what it holds
for a required field never shows, because a table or sequence that lacks a
required field is refused. -/
structure Shape (ρ : Type) where
  name : String
  blank : ρ
  fields : List (Field ρ)
  /-- Fields of unknown name are refused instead of passed over. -/
  strict : Bool

def Field.of {ρ β : Type} (name : String) (presence : Presence) (decode : Decoder β)
    (set : ρ → β → ρ) : Field ρ :=
  { name, aliases := [], presence
    put := fun form tree record => (decode form tree).map (set record) }

def Field.orNamed {ρ : Type} (field : Field ρ) (name : String) : Field ρ :=
  { field with aliases := name :: field.aliases }

def Field.answersTo {ρ : Type} (field : Field ρ) (name : String) : Bool :=
  field.name == name || field.aliases.contains name

namespace Shape

variable {ρ : Type}

/-- The record when its table ends, unless a required field was not seen. -/
def finished (shape : Shape ρ) (record : ρ) (seen : List String) : Except Problem ρ :=
  match shape.fields.find?
      (fun field => field.presence = .required && !seen.contains field.name) with
  | some field => .error (.missingField field.name)
  | none => .ok record

/-- Fills the record entry by entry. A name is judged before its value is. -/
def ofEntries (shape : Shape ρ) (form : Form) : ρ → List String → Entries → Except Problem ρ
  | record, seen, .closed => shape.finished record seen
  | _, _, .broken | _, _, .more none _ _ => .error .malformed
  | record, seen, .more (some name) value rest =>
    match shape.fields.find? (·.answersTo name) with
    | some field =>
      if seen.contains field.name then .error (.duplicateField field.name)
      else
        match field.put form value record with
        | .ok next => shape.ofEntries form next (field.name :: seen) rest
        | .error problem => .error problem
    | none =>
      if shape.strict then .error (.unknownField name (shape.fields.map (·.name)))
      else
        match skip value with
        | .ok () => shape.ofEntries form record seen rest
        | .error problem => .error problem

/-- How many elements a record is said to have when one is missing. -/
def expectation (shape : Shape ρ) : String :=
  match shape.fields.length with
  | 1 => s!"struct {shape.name} with 1 element"
  | count => s!"struct {shape.name} with {count} elements"

/-- What is left of a sequence when every field has been filled. In text nothing
may follow, a complete value may hold no more than the fields, and settings are
not looked at any further. -/
def surplus (form : Form) (length : Nat) (rest : Items) : Except Problem Unit :=
  match form, rest with
  | .settings, _ => .ok ()
  | _, .closed => .ok ()
  | .text, _ => .error .malformed
  | .value, _ => .error (.wrongLength length "fewer elements in array")

/-- Fills the record field by field from a sequence. -/
def ofItems (shape : Shape ρ) (form : Form) (length : Nat) :
    Nat → List (Field ρ) → ρ → Items → Except Problem ρ
  | _, [], record, rest => (surplus form length rest).map fun _ => record
  | index, field :: fields, record, .closed =>
    if field.presence = .defaulted then
      shape.ofItems form length (index + 1) fields record .closed
    else .error (.wrongLength index shape.expectation)
  | _, _ :: _, _, .broken => .error .malformed
  | index, field :: fields, record, .more item rest =>
    match field.put form item record with
    | .ok next => shape.ofItems form length (index + 1) fields next rest
    | .error problem => .error problem

/-- A record is written as a table by names or as a sequence by position. -/
def decode (shape : Shape ρ) : Decoder ρ := fun form tree =>
  match items? tree, entries? tree with
  | some items, _ => shape.ofItems form items.length 0 shape.fields shape.blank items
  | none, some entries => shape.ofEntries form shape.blank [] entries
  | none, none => .error (mismatch ("struct " ++ shape.name) tree)

end Shape

end ProfileDrift.Decode
