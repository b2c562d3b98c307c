import ProfileDrift.Decimal.Notation
import ProfileDrift.Json.Value

namespace ProfileDrift.Json

/-- A digit of a number below sixteen, in lower case. -/
def hexDigit (value : Nat) : Char := Nat.digitChar value

/-- The characters that stand for one character inside a quoted text: only
quotes, backslashes and control characters are escaped. -/
def escaped (char : Char) : List Char :=
  if char = '"' then ['\\', '"']
  else if char = '\\' then ['\\', '\\']
  else if char = '\x08' then ['\\', 'b']
  else if char = '\x0c' then ['\\', 'f']
  else if char = '\n' then ['\\', 'n']
  else if char = '\r' then ['\\', 'r']
  else if char = '\t' then ['\\', 't']
  else if char.toNat < 0x20 then
    ['\\', 'u', '0', '0', hexDigit (char.toNat / 16), hexDigit (char.toNat % 16)]
  else [char]

def quoted (text : String) : List Char := '"' :: (text.toList.flatMap escaped ++ ['"'])

/-- JSON has no spelling for a number that is not finite; null stands for it. -/
def Number.chars : Number → List Char
  | .integer value => Decimal.integerText value
  | .decimal value =>
    if value.isFinite then Decimal.shortestText value else "null".toList

def booleanChars (value : Bool) : List Char :=
  if value then "true".toList else "false".toList

namespace Value

mutual

def chars : Value → List Char
  | null => "null".toList
  | boolean value => booleanChars value
  | number value => value.chars
  | text value => quoted value
  | array [] => ['[', ']']
  | array (item :: items) => '[' :: (chars item ++ itemsChars items)
  | object [] => ['\x7b', '\x7d']
  | object ((name, value) :: members) =>
    '\x7b' :: (quoted name ++ ':' :: (chars value ++ membersChars members))

/-- The rest of an array after its first item. -/
def itemsChars : List Value → List Char
  | [] => [']']
  | item :: items => ',' :: (chars item ++ itemsChars items)

/-- The rest of an object after its first member. -/
def membersChars : List (String × Value) → List Char
  | [] => ['\x7d']
  | (name, value) :: members =>
    ',' :: (quoted name ++ ':' :: (chars value ++ membersChars members))

end

/-- A new line at a depth of nesting, two blanks for each level. -/
def lineAt (depth : Nat) : List Char := '\n' :: List.replicate (2 * depth) ' '

mutual

/-- The text of a value with every item and member on a line of its own. -/
def prettyChars (depth : Nat) : Value → List Char
  | null => "null".toList
  | boolean value => booleanChars value
  | number value => value.chars
  | text value => quoted value
  | array [] => ['[', ']']
  | array (item :: items) =>
    '[' :: (lineAt (depth + 1) ++ prettyChars (depth + 1) item ++ itemsPretty depth items)
  | object [] => ['\x7b', '\x7d']
  | object ((name, value) :: members) =>
    '\x7b' :: (lineAt (depth + 1) ++ quoted name ++ ':' :: ' ' ::
      (prettyChars (depth + 1) value ++ membersPretty depth members))

def itemsPretty (depth : Nat) : List Value → List Char
  | [] => lineAt depth ++ [']']
  | item :: items =>
    ',' :: (lineAt (depth + 1) ++ prettyChars (depth + 1) item ++ itemsPretty depth items)

def membersPretty (depth : Nat) : List (String × Value) → List Char
  | [] => lineAt depth ++ ['\x7d']
  | (name, value) :: members =>
    ',' :: (lineAt (depth + 1) ++ quoted name ++ ':' :: ' ' ::
      (prettyChars (depth + 1) value ++ membersPretty depth members))

end

def compact (value : Value) : String := String.ofList value.chars

def pretty (value : Value) : String := String.ofList (value.prettyChars 0)

end Value

end ProfileDrift.Json
