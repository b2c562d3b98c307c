import ProfileDrift.Toml.Atom
import ProfileDrift.Toml.Table
import ProfileDrift.Toml.Text

namespace ProfileDrift.Toml

inductive Statement where
  | header (path : List String)
  /-- The header of a further element of an array of tables. -/
  | element (path : List String)
  | assign (path : List String) (key : String) (value : Node)

def dropSpaces (chars : List Char) : List Char := chars.dropWhile isSpace

/-- Drops a comment, if there is one, up to the end of its line. -/
def dropComment : List Char → List Char
  | '#' :: rest => rest.dropWhile isPlain
  | chars => chars

def dropTrivia (inComment : Bool) : List Char → List Char
  | [] => []
  | char :: rest =>
    if char = '\n' then dropTrivia false rest
    else if inComment then
      if isPlain char then dropTrivia true rest else char :: rest
    else if isSpace char then dropTrivia false rest
    else if char = '#' then dropTrivia true rest
    else char :: rest

/-- A part of a key: bare or in quotes, and then on one line. -/
def keyPart? (chars : List Char) : Option (String × List Char) :=
  match chars with
  | '"' :: rest => (basic? rest).map fun (chars, rest) => (String.ofList chars, rest)
  | '\x27' :: rest => (literal? rest).map fun (chars, rest) => (String.ofList chars, rest)
  | _ =>
    match chars.span isBareKey with
    | ([], _) => none
    | (key, rest) => some (String.ofList key, rest)

/-- The parts of a dotted key, blanks around the points aside. Each part takes a
character at least, so the length of the text bounds their number. -/
def keyParts? : Nat → List Char → Option (List String × List Char)
  | 0, _ => none
  | bound + 1, chars => do
    let (part, rest) ← keyPart? (dropSpaces chars)
    match dropSpaces rest with
    | '.' :: rest =>
      let (parts, rest) ← keyParts? bound rest
      return (part :: parts, rest)
    | rest => return ([part], rest)

/-- Values may be nested less deep than this, and keys have fewer parts. -/
def nestingLimit : Nat := 80

def key? (chars : List Char) : Option (List String × List Char) := do
  let (parts, rest) ← keyParts? (chars.length + 1) chars
  if parts.length < nestingLimit then some (parts, rest) else none

/-- A dotted key split into the path and the key at its end. -/
def splitKey (parts : List String) : List String × String :=
  (parts.dropLast, parts.getLast?.getD "")

mutual

/-- The value at the head of a text, with so much room for nesting inside it.
Every step spends one unit of the bound and consumes a character or descends to
a value, so the length of the text, doubled, is bound enough. -/
def valueWithin? : Nat → Nat → List Char → Option (Node × List Char)
  | 0, _, _ => none
  | bound + 1, room, chars =>
    match chars with
    | '"' :: _ | '\x27' :: _ =>
      (quoted? chars).map fun (text, rest) => (.leaf (.text (some text)), rest)
    | '[' :: rest =>
      match room with
      | 0 => none
      | room + 1 =>
        (itemsWithin? bound room (dropTrivia false rest)).map
          fun (items, rest) => (.array items, rest)
    | '\x7b' :: rest =>
      match room with
      | 0 => none
      | room + 1 =>
        match dropSpaces rest with
        | '\x7d' :: rest => some (.table .inline [], rest)
        | rest =>
          (entriesWithin? bound room [] rest).map
            fun (entries, rest) => (.table .inline entries, rest)
    | _ =>
      let (atom, rest) := atomSpan chars
      (atom? atom).map fun tree => (.leaf tree, rest)

/-- The items of an array up to its closing bracket. Lines may end between them
and a comma may follow the last. -/
def itemsWithin? : Nat → Nat → List Char → Option (List Node × List Char)
  | 0, _, _ => none
  | bound + 1, room, chars =>
    match chars with
    | ']' :: rest => some ([], rest)
    | _ => do
      let (item, rest) ← valueWithin? bound room chars
      match dropTrivia false rest with
      | ']' :: rest => return ([item], rest)
      | ',' :: rest =>
        let (items, rest) ← itemsWithin? bound room (dropTrivia false rest)
        return (item :: items, rest)
      | _ => none

/-- The entries of a table in braces up to the closing one, all on one line. -/
def entriesWithin? : Nat → Nat → Content → List Char → Option (Content × List Char)
  | 0, _, _, _ => none
  | bound + 1, room, content, chars => do
    let (parts, rest) ← key? chars
    match rest with
    | '=' :: rest =>
      let (value, rest) ← valueWithin? bound room (dropSpaces rest)
      let (path, key) := splitKey parts
      let content ← content.assign? path key value
      match dropSpaces rest with
      | '\x7d' :: rest => return (content, rest)
      | ',' :: rest => entriesWithin? bound room content rest
      | _ => none
    | _ => none

end

/-- The end of a line after a statement: nothing but blanks and a comment. -/
def lineEnd? (chars : List Char) : Option (List Char) :=
  match dropComment (dropSpaces chars) with
  | [] => some []
  | '\n' :: rest => some rest
  | _ => none

def statement? : List Char → Option (Statement × List Char)
  | '[' :: '[' :: rest => do
    let (parts, rest) ← key? rest
    match rest with
    | ']' :: ']' :: rest => return (.element parts, rest)
    | _ => none
  | '[' :: rest => do
    let (parts, rest) ← key? rest
    match rest with
    | ']' :: rest => return (.header parts, rest)
    | _ => none
  | chars => do
    let (parts, rest) ← key? chars
    match rest with
    | '=' :: rest =>
      let rest := dropSpaces rest
      let (value, rest) ← valueWithin? (2 * rest.length + 2) (nestingLimit - 1) rest
      let (path, key) := splitKey parts
      return (.assign path key value, rest)
    | _ => none

/-- The statements of a text, each on lines of its own. Each takes a character at
least, so the length of the text bounds their number. -/
def statements? : Nat → List Char → Option (List Statement)
  | 0, _ => none
  | bound + 1, chars =>
    match dropTrivia false chars with
    | [] => some []
    | chars => do
      let (statement, rest) ← statement? chars
      let statements ← statements? bound (← lineEnd? rest)
      return statement :: statements

end ProfileDrift.Toml
