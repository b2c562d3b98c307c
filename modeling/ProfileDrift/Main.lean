import ProfileDrift.CommandLine.Run
import ProfileDrift.Json.Numbers
import ProfileDrift.Scalar.Blocks

open ProfileDrift
open scoped ProfileDrift.Lanes ProfileDrift.Json.Stepwise

namespace ProfileDrift.CommandLine

/-- The text of a file, or nothing if it cannot be read as text. -/
def readText? (path : String) : IO (Option String) := do
  try
    return some (← IO.FS.readFile path)
  catch _ =>
    return none

def gather (request : Request) : IO (List (String × Option String)) :=
  match request with
  | .run command => command.inputs.mapM fun path => do return (path, ← readText? path)
  | _ => return []

/-- Writes a text to a file and tells whether that was possible. -/
def writeText (path text : String) : IO Bool := do
  try
    IO.FS.writeFile path text
    return true
  catch _ =>
    return false

def publish (outcome : Outcome) : IO UInt32 := do
  IO.print outcome.output
  match outcome.complaint with
  | some complaint => IO.eprintln s!"Error: {complaint}"
  | none => if outcome.exitCode = 2 then IO.eprint Request.helpText
  return outcome.exitCode.toUInt32

end ProfileDrift.CommandLine

/-- Runs the command that the words after the name of the program ask for. -/
def main (words : List String) : IO UInt32 := do
  let request := Request.ofWords words
  let texts ← CommandLine.gather request
  let files : Files := ⟨fun path => (texts.lookup path).join, fun _ => true⟩
  let outcome := request.outcome files
  match outcome.written with
  | none => CommandLine.publish outcome
  | some (path, text) =>
    if ← CommandLine.writeText path text then CommandLine.publish outcome
    else CommandLine.publish (request.outcome { files with isWritable := fun _ => false })
