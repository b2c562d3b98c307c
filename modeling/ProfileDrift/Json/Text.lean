import ProfileDrift.Text.Hex

namespace ProfileDrift.Json

/-- A blank may stand between any two marks of a document. -/
def isBlank (char : Char) : Bool :=
  char = ' ' || char = '\n' || char = '\t' || char = '\r'

def dropBlanks : List Char → List Char
  | [] => []
  | char :: rest => if isBlank char then dropBlanks rest else char :: rest

def isHighSurrogate (unit : Nat) : Bool := 0xD800 ≤ unit && unit < 0xDC00

def isLowSurrogate (unit : Nat) : Bool := 0xDC00 ≤ unit && unit < 0xE000

def escape? : Char → Option Char
  | '"' => some '"'
  | '\\' => some '\\'
  | '/' => some '/'
  | 'b' => some '\x08'
  | 'f' => some '\x0c'
  | 'n' => some '\n'
  | 'r' => some '\r'
  | 't' => some '\t'
  | _ => none

/-- A piece of a quoted text: a character as such, or a UTF-16 unit written by
its four digits. -/
inductive Piece where
  | char (value : Char)
  | unit (value : Nat)

/-- The pieces up to the closing quote and what follows it; nothing if the text
is not closed, holds a control character or an unknown escape. -/
def pieces? : List Char → Option (List Piece × List Char)
  | [] => none
  | '"' :: rest => some ([], rest)
  | '\\' :: 'u' :: a :: b :: c :: d :: rest =>
    match Text.ofHex? [a, b, c, d], pieces? rest with
    | some unit, some (pieces, after) => some (.unit unit :: pieces, after)
    | _, _ => none
  | '\\' :: char :: rest =>
    match escape? char, pieces? rest with
    | some meant, some (pieces, after) => some (.char meant :: pieces, after)
    | _, _ => none
  | char :: rest =>
    if char.toNat < 0x20 then none
    else
      match pieces? rest with
      | some (pieces, after) => some (.char char :: pieces, after)
      | none => none

/-- The characters of the pieces. Two units may be the halves of a surrogate
pair; half of a pair alone is no character. -/
def joined? : List Piece → Option (List Char)
  | [] => some []
  | .char char :: rest => (joined? rest).map (char :: ·)
  | .unit unit :: rest =>
    if isHighSurrogate unit then
      match rest with
      | .unit low :: rest =>
        if isLowSurrogate low then
          (joined? rest).map
            (Char.ofNat (0x10000 + (unit - 0xD800) * 1024 + (low - 0xDC00)) :: ·)
        else none
      | _ => none
    else if isLowSurrogate unit then none
    else (joined? rest).map (Char.ofNat unit :: ·)

/-- Reads a text whose opening quote has been read. The text is absent when it
holds half of a surrogate pair. -/
def quotedText? (chars : List Char) : Option (Option String × List Char) :=
  (pieces? chars).map fun (pieces, rest) => ((joined? pieces).map String.ofList, rest)

end ProfileDrift.Json
