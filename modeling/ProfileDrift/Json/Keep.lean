import ProfileDrift.Decode.Shape
import ProfileDrift.Json.Reader
import ProfileDrift.Keyed

namespace ProfileDrift.Json

open Decode (Tree Items Entries Form Problem)

/-- Containers may be nested this deep in a value that is kept from a text. -/
def nestingLimit : Nat := 127

/-- The room for nesting inside one more container, if there is any. Without a
limit there always is. -/
def narrower? : Option Nat → Option (Option Nat)
  | none => some none
  | some 0 => none
  | some (room + 1) => some (some room)

mutual

/-- A value kept as it is, with so much room left for nesting; a container that
finds none is malformed. Of members with one name the last counts. -/
def keep (room : Option Nat) : Tree → Except Problem Value
  | .null => .ok .null
  | .boolean value => .ok (.boolean value)
  | .number (some value) => .ok (.number value)
  | .text (some value) => .ok (.text value)
  | .moment value => .ok (.object [(Decode.momentName, .text value)])
  | .sequence items | .gathered items =>
    match narrower? room with
    | none => .error .malformed
    | some room => (keepItems room items).map .array
  | .table entries =>
    match narrower? room with
    | none => .error .malformed
    | some room =>
      (keepEntries room entries).map fun kept => .object (Keyed.ofList kept).entries
  | .number none | .text none | .unreadable => .error .malformed

def keepItems (room : Option Nat) : Items → Except Problem (List Value)
  | .closed => .ok []
  | .broken => .error .malformed
  | .more item rest =>
    match keep room item with
    | .ok value => (keepItems room rest).map (value :: ·)
    | .error problem => .error problem

def keepEntries (room : Option Nat) : Entries → Except Problem (List (String × Value))
  | .closed => .ok []
  | .broken | .more none _ _ => .error .malformed
  | .more (some name) tree rest =>
    match keep room tree with
    | .ok value => (keepEntries room rest).map ((name, value) :: ·)
    | .error problem => .error problem

end

/-- A kept value inside so many containers of its text. The limit is one on
reading text; a value that was read before is kept whatever its depth. -/
def keeper (depth : Nat) : Decode.Decoder Value := fun form tree =>
  match form with
  | .text => keep (some (nestingLimit - depth)) tree
  | _ => keep none tree

/-- Reads a text as a record or value. The first fault in the order of the text
counts, and after a good value nothing but blanks may follow. -/
def decodeText [NumberReader] {β : Type} (decode : Decode.Decoder β) (text : String) : Except Problem β :=
  let (tree, clean) := tree text
  match decode .text tree with
  | .ok value => if clean then .ok value else .error .malformed
  | .error problem => .error problem

/-- Takes a record out of a value that has been read before. -/
def decodeValue {β : Type} (decode : Decode.Decoder β) (value : Value) : Except Problem β :=
  decode .value (Decode.ofValue value)

end ProfileDrift.Json
