import ProfileDrift.Decode.Shape
import ProfileDrift.Toml.Statement

namespace ProfileDrift.Toml

/-- A settings file read so far: the tables that are complete, and the one that
the latest header has opened, with its path. -/
structure Reader where
  root : Content
  path : List String
  isElement : Bool
  current : Content

namespace Reader

/-- Before the first header the outermost table is open. -/
def start : Reader := ⟨[], [], false, []⟩

/-- The tables with the open one among them. -/
def closed? (reader : Reader) : Option Content :=
  reader.root.close? reader.path reader.isElement reader.current

/-- A header closes the open table and opens another; an assignment adds to the
open table. -/
def step? (reader : Reader) : Statement → Option Reader
  | .header path => do
    let (root, held) ← (← reader.closed?).openTable? path
    return ⟨root, path, false, held⟩
  | .element path => do
    let root ← (← reader.closed?).openElement? path
    return ⟨root, path, true, []⟩
  | .assign path key value =>
    (reader.current.assign? path key value).map fun current => { reader with current }

end Reader

/-- A mark of the encoding may stand before a text and says nothing. -/
def dropMark : List Char → List Char
  | '\ufeff' :: rest => rest
  | chars => chars

/-- The tree of a settings file, or nothing if its notation is broken anywhere. -/
def tree? (text : String) : Option Decode.Tree := do
  let chars := unifyLines (dropMark text.toList)
  let statements ← statements? (chars.length + 1) chars
  let reader ← statements.foldlM Reader.step? .start
  let root ← reader.closed?
  return .table (entriesTree root)

/-- Reads a settings file as a record. Its notation is checked as a whole before
anything is looked for in it. -/
def decodeText {β : Type} (decode : Decode.Decoder β) (text : String) :
    Except Decode.Problem β :=
  match tree? text with
  | some tree => decode .settings tree
  | none => .error .malformed

end ProfileDrift.Toml
