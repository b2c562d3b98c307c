import ProfileDrift.Json.Value

namespace ProfileDrift.Decode

open Json (Number)

mutual

/-- A written value as far as it can be read. A reader turns any text into a
tree without knowing what is expected; faults stay where they stand in the
text, so that whoever takes the tree apart in order meets the first one first. -/
inductive Tree where
  | null
  | boolean (value : Bool)
  /-- A number, or nothing if it exceeds every double. -/
  | number (value : Option Number)
  /-- A quoted text, or nothing if it holds half of a surrogate pair. -/
  | text (value : Option String)
  | moment (value : String)
  | sequence (items : Items)
  /-- A sequence of tables that were gathered one by one, each under a header. -/
  | gathered (items : Items)
  | table (entries : Entries)
  | unreadable

/-- The items of a sequence, up to its end or to where it cannot be read. -/
inductive Items where
  | closed
  | broken
  | more (item : Tree) (rest : Items)

/-- The entries of a table, up to its end or to where it cannot be read. -/
inductive Entries where
  | closed
  | broken
  | more (name : Option String) (value : Tree) (rest : Entries)

end

instance : Inhabited Tree := ⟨.unreadable⟩

/-- The name under which a moment holds its text when it is taken as a table. -/
def momentName : String := "$__toml_private_datetime"

namespace Items

def ofList : List Tree → Items
  | [] => closed
  | item :: rest => more item (ofList rest)

def length : Items → Nat
  | more _ rest => rest.length + 1
  | _ => 0

end Items

namespace Entries

def ofList : List (String × Tree) → Entries
  | [] => closed
  | (name, value) :: rest => more (some name) value (ofList rest)

end Entries

mutual

/-- The tree of a value that has been read completely. -/
def ofValue : Json.Value → Tree
  | .null => .null
  | .boolean value => .boolean value
  | .number value => .number (some value)
  | .text value => .text (some value)
  | .array items => .sequence (ofValues items)
  | .object members => .table (ofMembers members)

def ofValues : List Json.Value → Items
  | [] => .closed
  | item :: rest => .more (ofValue item) (ofValues rest)

def ofMembers : List (String × Json.Value) → Entries
  | [] => .closed
  | (name, value) :: rest => .more (some name) (ofValue value) (ofMembers rest)

end

end ProfileDrift.Decode
