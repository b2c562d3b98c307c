import ProfileDrift.Text.Hex

namespace ProfileDrift.Toml

def isSpace (char : Char) : Bool := char = ' ' || char = '\t'

def isSpaceOrLine (char : Char) : Bool := isSpace char || char = '\n'

/-- What may stand in comments and quoted texts: everything but control
characters, of which a tabulator is allowed. -/
def isPlain (char : Char) : Bool :=
  char = '\t' || (0x20 ≤ char.toNat && char.toNat ≠ 0x7f)

/-- The quote of a text without escapes. -/
def apostrophe : Char := '\x27'

def isBareKey (char : Char) : Bool := char.isAlphanum || char = '_' || char = '-'

def scalar? (code : Nat) : Option Char :=
  if code.isValidChar then some (Char.ofNat code) else none

def escape? : Char → Option Char
  | 'b' => some '\x08'
  | 't' => some '\t'
  | 'n' => some '\n'
  | 'f' => some '\x0c'
  | 'r' => some '\r'
  | '"' => some '"'
  | '\\' => some '\\'
  | _ => none

/-- A character in front of a text that was read, with what follows the text. -/
def consChar (char : Option Char) (text : Option (List Char × List Char)) :
    Option (List Char × List Char) :=
  match char, text with
  | some char, some (chars, rest) => some (char :: chars, rest)
  | _, _ => none

/-- A text with escapes on one line, up to its closing quote. -/
def basic? : List Char → Option (List Char × List Char)
  | [] => none
  | '"' :: rest => some ([], rest)
  | '\\' :: 'u' :: a :: b :: c :: d :: rest =>
    consChar ((Text.ofHex? [a, b, c, d]).bind scalar?) (basic? rest)
  | '\\' :: 'U' :: a :: b :: c :: d :: e :: f :: g :: h :: rest =>
    consChar ((Text.ofHex? [a, b, c, d, e, f, g, h]).bind scalar?) (basic? rest)
  | '\\' :: char :: rest => consChar (escape? char) (basic? rest)
  | char :: rest => consChar (if isPlain char then some char else none) (basic? rest)

/-- A text without escapes on one line, up to its closing apostrophe. -/
def literal? : List Char → Option (List Char × List Char)
  | [] => none
  | char :: rest =>
    if char = apostrophe then some ([], rest)
    else consChar (if isPlain char then some char else none) (literal? rest)

/-- Does nothing but blanks stand before the end of the line? -/
def endsLine : List Char → Bool
  | [] => false
  | char :: rest => char = '\n' || (isSpace char && endsLine rest)

/-- A text with escapes over several lines, up to three closing quotes, before
which one or two more may stand. A backslash at the end of a line drops the line
end and all blanks after it. -/
def multilineBasic? (dropping : Bool) : List Char → Option (List Char × List Char)
  | [] => none
  | '"' :: '"' :: '"' :: '"' :: '"' :: rest => some (['"', '"'], rest)
  | '"' :: '"' :: '"' :: '"' :: rest => some (['"'], rest)
  | '"' :: '"' :: '"' :: rest => some ([], rest)
  | '\\' :: 'u' :: a :: b :: c :: d :: rest =>
    consChar ((Text.ofHex? [a, b, c, d]).bind scalar?) (multilineBasic? false rest)
  | '\\' :: 'U' :: a :: b :: c :: d :: e :: f :: g :: h :: rest =>
    consChar ((Text.ofHex? [a, b, c, d, e, f, g, h]).bind scalar?) (multilineBasic? false rest)
  | '\\' :: char :: rest =>
    if endsLine (char :: rest) then multilineBasic? true rest
    else consChar (escape? char) (multilineBasic? false rest)
  | char :: rest =>
    if dropping && isSpaceOrLine char then multilineBasic? true rest
    else
      consChar (if isPlain char || char = '\n' then some char else none)
        (multilineBasic? false rest)

/-- A text without escapes over several lines, up to three closing apostrophes,
before which one or two more may stand. -/
def multilineLiteral? : List Char → Option (List Char × List Char)
  | [] => none
  | '\x27' :: '\x27' :: '\x27' :: '\x27' :: '\x27' :: rest => some ([apostrophe, apostrophe], rest)
  | '\x27' :: '\x27' :: '\x27' :: '\x27' :: rest => some ([apostrophe], rest)
  | '\x27' :: '\x27' :: '\x27' :: rest => some ([], rest)
  | char :: rest =>
    consChar (if isPlain char || char = '\n' then some char else none) (multilineLiteral? rest)

/-- A line end directly after the opening quotes is not part of the text. -/
def dropLineEnd : List Char → List Char
  | '\n' :: rest => rest
  | chars => chars

def quoted? : List Char → Option (String × List Char)
  | '"' :: '"' :: '"' :: rest =>
    (multilineBasic? false (dropLineEnd rest)).map fun (chars, rest) => (String.ofList chars, rest)
  | '"' :: rest => (basic? rest).map fun (chars, rest) => (String.ofList chars, rest)
  | '\x27' :: '\x27' :: '\x27' :: rest =>
    (multilineLiteral? (dropLineEnd rest)).map fun (chars, rest) => (String.ofList chars, rest)
  | '\x27' :: rest => (literal? rest).map fun (chars, rest) => (String.ofList chars, rest)
  | _ => none

/-- Line ends of two characters become line ends of one. -/
def unifyLines : List Char → List Char
  | '\r' :: '\n' :: rest => '\n' :: unifyLines rest
  | char :: rest => char :: unifyLines rest
  | [] => []

end ProfileDrift.Toml
