import ProfileDrift.Decode.Tree

namespace ProfileDrift.Toml

open Decode (Tree Items Entries)

/-- How a table came to be, which decides what may still be added to it. -/
inductive Origin where
  /-- By a header of its own, also as an element of an array of tables. -/
  | header
  /-- By the header of a table inside it. -/
  | implied
  | dotted
  /-- By a value in braces, to which nothing can be added. -/
  | inline
  deriving DecidableEq

inductive Node where
  | leaf (value : Tree)
  | array (items : List Node)
  | table (origin : Origin) (entries : List (String × Node))
  /-- An array of tables, filled header by header, the latest first. -/
  | tables (elements : List (List (String × Node)))

/-- The entries of a table in the order in which they were added. -/
abbrev Content := List (String × Node)

namespace Content

def replace (content : Content) (key : String) (node : Node) : Content :=
  content.map fun entry => if entry.1 = key then (key, node) else entry

def remove (content : Content) (key : String) : Content :=
  content.filter fun entry => entry.1 ≠ key

/-- Changes the table at the end of a path and takes something out of it. Tables
that are missing on the way are created; of an array of tables the latest element
is meant. A dotted key does not reach into a table that has a header of its own. -/
def within? {β : Type} (dotted : Bool) (change : Origin → Content → Option (Content × β)) :
    List String → Origin → Content → Option (Content × β)
  | [], origin, content => change origin content
  | key :: path, _, content =>
    match content.lookup key with
    | none => do
      let origin := if dotted then Origin.dotted else Origin.implied
      let (inner, taken) ← within? dotted change path origin []
      return (content ++ [(key, .table origin inner)], taken)
    | some (.table origin inner) =>
      if origin = .inline ∨ (dotted ∧ origin = .header) then none
      else do
        let (inner, taken) ← within? dotted change path origin inner
        return (content.replace key (.table origin inner), taken)
    | some (.tables (latest :: earlier)) => do
      let (latest, taken) ← within? dotted change path .header latest
      return (content.replace key (.tables (latest :: earlier)), taken)
    | some _ => none

/-- Adds a value under a dotted key. The key is new, and all but its last part
names tables that dotted keys have made. -/
def assign? (content : Content) (path : List String) (key : String) (node : Node) :
    Option Content :=
  (within? true
    (fun origin content =>
      if path ≠ [] ∧ origin ≠ .dotted then none
      else if (content.lookup key).isSome then none
      else some (content ++ [(key, node)], ()))
    path .header content).map (·.1)

/-- Puts a table where its header says: as a further element of an array of
tables, or under a key that is free. -/
def close? (content : Content) (path : List String) (isElement : Bool) (table : Content) :
    Option Content :=
  match path.getLast? with
  | none => some table
  | some key =>
    (within? false
      (fun _ content =>
        match isElement, content.lookup key with
        | true, some (.tables elements) =>
          some (content.replace key (.tables (table :: elements)), ())
        | false, none => some (content ++ [(key, .table .header table)], ())
        | _, _ => none)
      path.dropLast .header content).map (·.1)

/-- Makes a key free for the header of a table and gives what the table holds
already. A table that only the headers of inner tables have implied is taken out;
any other has been defined before. -/
def openTable? (content : Content) (path : List String) : Option (Content × Content) :=
  match path.getLast? with
  | none => none
  | some key =>
    within? false
      (fun _ content =>
        match content.lookup key with
        | none => some (content, [])
        | some (.table .implied inner) => some (content.remove key, inner)
        | some _ => none)
      path.dropLast .header content

/-- Makes sure that there is an array of tables under a key. -/
def openElement? (content : Content) (path : List String) : Option Content :=
  match path.getLast? with
  | none => none
  | some key =>
    (within? false
      (fun _ content =>
        match content.lookup key with
        | none => some (content ++ [(key, .tables [])], ())
        | some (.tables _) => some (content, ())
        | some _ => none)
      path.dropLast .header content).map (·.1)

end Content

mutual

/-- A table is taken apart in the order in which its entries were added. -/
def nodeTree : Node → Tree
  | .leaf value => value
  | .array items => .sequence (itemsTree items)
  | .table _ entries => .table (entriesTree entries)
  | .tables elements => .gathered (elementsTree elements .closed)

def itemsTree : List Node → Items
  | [] => .closed
  | item :: rest => .more (nodeTree item) (itemsTree rest)

def entriesTree : List (String × Node) → Entries
  | [] => .closed
  | (key, node) :: rest => .more (some key) (nodeTree node) (entriesTree rest)

/-- Elements stand latest first. -/
def elementsTree : List (List (String × Node)) → Items → Items
  | [], items => items
  | element :: earlier, items => elementsTree earlier (.more (.table (entriesTree element)) items)

end

end ProfileDrift.Toml
