import ProfileDrift.Decimal.Literal
import ProfileDrift.Decode.Tree
import ProfileDrift.Json.Text

namespace ProfileDrift.Json

open Decode (Tree Items Entries)

/-- The digits at the head of a text, and what follows them. -/
def spanDigits (chars : List Char) : List Char × List Char := chars.span Char.isDigit

/-- The exponent of ten at the head of a text, if one is written there. -/
def exponent? : List Char → Option (Option Int × List Char)
  | [] => some (none, [])
  | mark :: rest =>
    if mark = 'e' ∨ mark = 'E' then
      let (negative, rest) :=
        match rest with
        | '-' :: rest => (true, rest)
        | '+' :: rest => (false, rest)
        | _ => (false, rest)
      match spanDigits rest with
      | ([], _) => none
      | (digits, rest) =>
        let size : Int := Decimal.ofDigits digits
        some (some (if negative then -size else size), rest)
    else some (none, mark :: rest)

/-- The digits after the point at the head of a text, none if there is no point. -/
def fraction? : List Char → Option (List Char × List Char)
  | '.' :: rest =>
    match spanDigits rest with
    | ([], _) => none
    | (digits, rest) => some (digits, rest)
  | chars => some ([], chars)

/-- The digits before the point: a zero alone or digits that begin with another. -/
def whole? (chars : List Char) : Option (List Char × List Char) :=
  match spanDigits chars with
  | ([], _) => none
  | ('0' :: _ :: _, _) => none
  | (digits, rest) => some (digits, rest)

/-- The rest of a text after a word that it begins with. -/
def afterWord? : List Char → List Char → Option (List Char)
  | [], chars => some chars
  | expected :: word, char :: chars => if expected = char then afterWord? word chars else none
  | _ :: _, [] => none

/-- How the decimals of a text become doubles. That is left to a library, and it need not find the
nearest double; what exceeds every double it makes infinite. -/
class NumberReader where
  toFloat : Decimal.Literal → Float

variable [NumberReader]

/-- What a number is once it is kept: a whole number within 64 bits, signed or
not, written without fraction and exponent, or else the double that it is read as.
Negative zero is a double, and one that exceeds every double is nothing. -/
def Number.ofLiteral (literal : Decimal.Literal) (isWhole : Bool) : Option Number :=
  let size := literal.significand
  if isWhole && !literal.negative && decide (size < Nat.pow 2 64) then some (.integer size)
  else if isWhole && literal.negative && decide (0 < size) && decide (size ≤ Nat.pow 2 63) then
    some (.integer (-size))
  else
    let value := NumberReader.toFloat literal
    if value.isFinite then some (.decimal value) else none

def number? (chars : List Char) : Option (Option Number × List Char) := do
  let (negative, chars) :=
    match chars with
    | '-' :: rest => (true, rest)
    | _ => (false, chars)
  let (whole, rest) ← whole? chars
  let (fraction, rest) ← fraction? rest
  let (exponent, rest) ← exponent? rest
  let isWhole := fraction.isEmpty && exponent.isNone
  return (Number.ofLiteral ⟨negative, whole, fraction, exponent.getD 0⟩ isWhole, rest)

/-- A value that is neither a sequence nor a table, and what follows it. -/
def scalar (chars : List Char) : Tree × List Char :=
  match chars with
  | '"' :: rest =>
    match quotedText? rest with
    | some (text, rest) => (.text text, rest)
    | none => (.unreadable, [])
  | 'n' :: _ =>
    match afterWord? "null".toList chars with
    | some rest => (.null, rest)
    | none => (.unreadable, [])
  | 't' :: _ =>
    match afterWord? "true".toList chars with
    | some rest => (.boolean true, rest)
    | none => (.unreadable, [])
  | 'f' :: _ =>
    match afterWord? "false".toList chars with
    | some rest => (.boolean false, rest)
    | none => (.unreadable, [])
  | _ =>
    match number? chars with
    | some (number, rest) => (.number number, rest)
    | none => (.unreadable, [])

mutual

/-- The value at the head of a text and what follows it. Every step spends one
unit of the bound and consumes a character or descends to a value, so the
length of the text, doubled, is bound enough. -/
def treeWithin : Nat → List Char → Tree × List Char
  | 0, _ => (.unreadable, [])
  | bound + 1, chars =>
    match dropBlanks chars with
    | '[' :: rest =>
      match dropBlanks rest with
      | ']' :: rest => (.sequence .closed, rest)
      | rest =>
        let (items, rest) := itemsWithin bound rest
        (.sequence items, rest)
    | '\x7b' :: rest =>
      match dropBlanks rest with
      | '\x7d' :: rest => (.table .closed, rest)
      | rest =>
        let (entries, rest) := entriesWithin bound rest
        (.table entries, rest)
    | chars => scalar chars

/-- An item and the items after it, up to the closing bracket. -/
def itemsWithin : Nat → List Char → Items × List Char
  | 0, _ => (.broken, [])
  | bound + 1, chars =>
    let (item, rest) := treeWithin bound chars
    match dropBlanks rest with
    | ']' :: rest => (.more item .closed, rest)
    | ',' :: rest =>
      match dropBlanks rest with
      | ']' :: _ => (.more item .broken, [])
      | rest =>
        let (items, rest) := itemsWithin bound rest
        (.more item items, rest)
    | _ => (.more item .broken, [])

/-- An entry and the entries after it, up to the closing bracket. -/
def entriesWithin : Nat → List Char → Entries × List Char
  | 0, _ => (.broken, [])
  | bound + 1, chars =>
    match dropBlanks chars with
    | '"' :: rest =>
      match quotedText? rest with
      | none => (.broken, [])
      | some (name, rest) =>
        match dropBlanks rest with
        | ':' :: rest =>
          let (value, rest) := treeWithin bound rest
          match dropBlanks rest with
          | '\x7d' :: rest => (.more name value .closed, rest)
          | ',' :: rest =>
            match dropBlanks rest with
            | '\x7d' :: _ => (.more name value .broken, [])
            | rest =>
              let (entries, rest) := entriesWithin bound rest
              (.more name value entries, rest)
          | _ => (.more name value .broken, [])
        | _ => (.more name .unreadable .broken, [])
    | _ => (.broken, [])

end

/-- The value that a text holds, and whether nothing but blanks follows it. -/
def tree (text : String) : Tree × Bool :=
  let chars := text.toList
  let (tree, rest) := treeWithin (2 * chars.length + 2) chars
  (tree, (dropBlanks rest).isEmpty)

end ProfileDrift.Json
