namespace ProfileDrift

inductive OutputFormat where
  | text
  | json
  deriving DecidableEq, Repr

def OutputFormat.ofName? : String → Option OutputFormat
  | "text" => some text
  | "json" => some json
  | _ => none

/-- What the program can be told to do. Profiles, settings and output are named
by the paths of their files. -/
inductive Command where
  | diff (baseline target : String) (settings : Option String) (format : OutputFormat)
      (verbose : Bool)
  | fit (profile : String) (output : Option String)
  deriving DecidableEq, Repr

inductive Request where
  | run (command : Command)
  | help
  | version
  | misuse
  deriving DecidableEq, Repr

/-- The options and operands of a command that have been read so far. An option
may be given once; an operand is kept in its place. -/
structure Words where
  operands : List String
  settings : Option String
  format : Option OutputFormat
  output : Option String
  verbose : Bool
  debug : Bool

namespace Words

def empty : Words := ⟨[], none, none, none, false, false⟩

inductive Owner where
  | diff
  | fit
  deriving DecidableEq

def Owner.operandCount : Owner → Nat
  | diff => 2
  | fit => 1

inductive Valued where
  | settings
  | format
  | output
  deriving DecidableEq

def Valued.ofLong? (owner : Owner) (name : String) : Option Valued :=
  match owner, name with
  | .diff, "config" => some settings
  | .diff, "format" => some format
  | .fit, "output" => some output
  | _, _ => none

def Valued.ofLetter? (owner : Owner) (letter : Char) : Option Valued :=
  match owner, letter with
  | .diff, 'c' => some settings
  | .fit, 'o' => some output
  | _, _ => none

/-- Gives an option its value, which is not empty. -/
def give? (words : Words) (option : Valued) (value : String) : Option Words :=
  if value.isEmpty then none
  else
    match option with
    | .settings => if words.settings.isSome then none else some { words with settings := value }
    | .output => if words.output.isSome then none else some { words with output := value }
    | .format =>
      if words.format.isSome then none
      else (OutputFormat.ofName? value).map fun format => { words with format }

def setVerbose? (words : Words) : Option Words :=
  if words.verbose then none else some { words with verbose := true }

def setDebug? (words : Words) : Option Words :=
  if words.debug then none else some { words with debug := true }

/-- Adds an operand, which is not empty, if there is a place for it. -/
def operand? (words : Words) (owner : Owner) (word : String) : Option Words :=
  if word.isEmpty || owner.operandCount ≤ words.operands.length then none
  else some { words with operands := words.operands ++ [word] }

/-- The command that the words make up when nothing follows them. -/
def request (words : Words) (owner : Owner) : Request :=
  match owner, words.operands with
  | .diff, [baseline, target] =>
    .run (.diff baseline target words.settings (words.format.getD .text) words.verbose)
  | .fit, [profile] => .run (.fit profile words.output)
  | _, _ => .misuse

/-- A word of options that is read to its end. -/
inductive Letters where
  | done (words : Words)
  | help
  | misuse
  /-- The last letter is followed by a value, which is the next word. -/
  | wants (words : Words) (option : Valued)

/-- Letters that follow a single dash. What comes after a letter that takes a
value is that value, an equals sign at its head aside. -/
def letters (owner : Owner) (words : Words) : List Char → Letters
  | [] => .done words
  | letter :: rest =>
    if letter = 'h' then .help
    else
      match Valued.ofLetter? owner letter with
      | some option =>
        match rest with
        | [] => .wants words option
        | '=' :: value | value =>
          match words.give? option (String.ofList value) with
          | some words => .done words
          | none => .misuse
      | none =>
        if letter = 'v' ∧ owner = .diff then
          match words.setVerbose? with
          | some words => letters owner words rest
          | none => .misuse
        else .misuse

/-- A long option, with the value that is attached to it by an equals sign. -/
def long (owner : Owner) (words : Words) (name : String) (attached : Option String) : Letters :=
  match Valued.ofLong? owner name, attached with
  | some option, none => .wants words option
  | some option, some value =>
    match words.give? option value with
    | some words => .done words
    | none => .misuse
  | none, some _ => .misuse
  | none, none =>
    let switched :=
      if name = "debug" then words.setDebug?
      else if name = "verbose" ∧ owner = .diff then words.setVerbose?
      else none
    if name = "help" then .help
    else
      match switched with
      | some words => .done words
      | none => .misuse

/-- A long option split at its first equals sign. -/
def splitLong (chars : List Char) : String × Option String :=
  match chars.span (· ≠ '=') with
  | (name, '=' :: value) => (String.ofList name, some (String.ofList value))
  | (name, _) => (String.ofList name, none)

/-- Does a word begin with a dash and go on? Such a word is never a value. -/
def isOption (word : String) : Bool :=
  match word.toList with
  | '-' :: _ :: _ => true
  | _ => false

/-- Reads the words of a command from left to right; the first that is not
understood, or that asks for help, decides. After a bare double dash every word
is an operand. -/
def read (owner : Owner) (onlyOperands : Bool) (words : Words) : List String → Request
  | [] => words.request owner
  | word :: rest =>
    let result :=
      if onlyOperands then
        match words.operand? owner word with
        | some words => Letters.done words
        | none => .misuse
      else
        match word.toList with
        | ['-', '-'] => .done words
        | '-' :: '-' :: chars => long owner words (splitLong chars).1 (splitLong chars).2
        | '-' :: letter :: chars => letters owner words (letter :: chars)
        | _ =>
          match words.operand? owner word with
          | some words => .done words
          | none => .misuse
    match result with
    | .misuse => .misuse
    | .help => .help
    | .done words => read owner (onlyOperands || word == "--") words rest
    | .wants words option =>
      match rest with
      | [] => .misuse
      | value :: rest =>
        if isOption value then .misuse
        else
          match words.give? option value with
          | some words => read owner onlyOperands words rest
          | none => .misuse

end Words

namespace Request

/-- Reads the words after the name of the program up to the name of a command. -/
def readWithin (debug : Bool) : List String → Request
  | [] => .misuse
  | word :: rest =>
    match word with
    | "diff" => Words.read .diff false .empty rest
    | "fit" => Words.read .fit false .empty rest
    | "help" =>
      match rest with
      | [] | ["diff"] | ["fit"] | ["help"] => .help
      | _ => .misuse
    | "--debug" => if debug then .misuse else readWithin true rest
    | "--version" => .version
    | "--help" => .help
    | _ =>
      match word.toList with
      | '-' :: 'V' :: _ => .version
      | '-' :: 'h' :: _ => .help
      | _ => .misuse

def ofWords (words : List String) : Request := readWithin false words

end Request

end ProfileDrift
