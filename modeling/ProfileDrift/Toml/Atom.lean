import ProfileDrift.Decimal.Literal
import ProfileDrift.Decode.Tree
import ProfileDrift.Text.Hex

namespace ProfileDrift.Toml

open Decode (Tree)

/-- What may stand in a number, a moment or a word. -/
def isAtomChar (char : Char) : Bool :=
  char.isAlphanum || char = '+' || char = '-' || char = '_' || char = '.' || char = ':'

/-- Digits at the head of a text; an underscore may stand between two of them. -/
def digitRun (isDigit : Char → Bool) : List Char → List Char × List Char
  | [] => ([], [])
  | '_' :: char :: rest =>
    if isDigit char then
      let (digits, rest) := digitRun isDigit rest
      (char :: digits, rest)
    else ([], '_' :: char :: rest)
  | char :: rest =>
    if isDigit char then
      let (digits, rest) := digitRun isDigit rest
      (char :: digits, rest)
    else ([], char :: rest)

/-- Digits at the head of a text, at least one and the first without an
underscore before it. -/
def digits? (isDigit : Char → Bool) (chars : List Char) : Option (List Char × List Char) :=
  match chars with
  | first :: _ => if isDigit first then some (digitRun isDigit chars) else none
  | [] => none

/-- The number that digits stand for in a base of at most sixteen. -/
def inBase (base : Nat) (digits : List Char) : Nat :=
  digits.foldl (fun number digit => base * number + (Text.hexValue? digit).getD 0) 0

/-- A whole number within 64 bits with sign. -/
def whole? (negative : Bool) (size : Nat) : Option Tree :=
  if negative then
    if size ≤ Nat.pow 2 63 then some (.number (some (.integer (-size)))) else none
  else if size < Nat.pow 2 63 then some (.number (some (.integer size))) else none

def based? (base : Nat) (chars : List Char) : Option Tree :=
  let isDigit := fun char => decide ((Text.hexValue? char).getD 16 < base)
  match digits? isDigit chars with
  | some (digits, []) => whole? false (inBase base digits)
  | _ => none

def exponent? : List Char → Option Int
  | mark :: rest =>
    if mark = 'e' ∨ mark = 'E' then
      let (negative, rest) :=
        match rest with
        | '-' :: rest => (true, rest)
        | '+' :: rest => (false, rest)
        | _ => (false, rest)
      match digits? Char.isDigit rest with
      | some (digits, []) =>
        let size : Int := Decimal.ofDigits digits
        some (if negative then -size else size)
      | _ => none
    else none
  | [] => some 0

/-- A number with fraction or exponent. One that rises above every double is none. -/
def decimal? (negative : Bool) (whole fraction : List Char) (rest : List Char) : Option Tree := do
  let value := Decimal.Literal.toFloat ⟨negative, whole, fraction, ← exponent? rest⟩
  if value.isInf && !negative then none else some (.number (some (.decimal value)))

/-- A number in base ten after its sign. It does not begin with a zero unless
that is its only digit before the point. -/
def unsigned? (negative : Bool) (chars : List Char) : Option Tree :=
  if chars = "inf".toList then
    some (.number (some (.decimal (if negative then -(1.0 / 0.0) else 1.0 / 0.0))))
  else if chars = "nan".toList then some (.number (some (.decimal (0.0 / 0.0))))
  else
    match digits? Char.isDigit chars with
    | none | some ('0' :: _ :: _, _) => none
    | some (digits, []) => whole? negative (Decimal.ofDigits digits)
    | some (digits, '.' :: rest) =>
      match digits? Char.isDigit rest with
      | some (fraction, rest) => decimal? negative digits fraction rest
      | none => none
    | some (digits, rest) => decimal? negative digits [] rest

def number? : List Char → Option Tree
  | '0' :: 'x' :: rest => based? 16 rest
  | '0' :: 'o' :: rest => based? 8 rest
  | '0' :: 'b' :: rest => based? 2 rest
  | '+' :: rest => unsigned? false rest
  | '-' :: rest => unsigned? true rest
  | chars => unsigned? false chars

def isLeapYear (year : Nat) : Bool :=
  year % 4 == 0 && (year % 100 != 0 || year % 400 == 0)

def daysIn (year month : Nat) : Nat :=
  match month with
  | 2 => if isLeapYear year then 29 else 28
  | 4 | 6 | 9 | 11 => 30
  | _ => 31

/-- A date at the head of a text, as written, and what follows it. -/
def date? : List Char → Option (List Char × List Char)
  | a :: b :: c :: d :: '-' :: e :: f :: '-' :: g :: h :: rest =>
    let year := Decimal.ofDigits [a, b, c, d]
    let month := Decimal.ofDigits [e, f]
    let day := Decimal.ofDigits [g, h]
    if [a, b, c, d, e, f, g, h].all Char.isDigit && 1 ≤ month && month ≤ 12 && 1 ≤ day &&
        day ≤ daysIn year month then
      some ([a, b, c, d, '-', e, f, '-', g, h], rest)
    else none
  | _ => none

/-- The fraction of a second as it is shown: to nine places at most and without
zeros at its end. -/
def shownFraction (digits : List Char) : List Char :=
  match ((digits.take 9).reverse.dropWhile (· = '0')).reverse with
  | [] => []
  | shown => '.' :: shown

/-- A time of day at the head of a text, as it is shown, and what follows it. A
minute may have a leap second. -/
def time? : List Char → Option (List Char × List Char)
  | a :: b :: ':' :: c :: d :: ':' :: e :: f :: rest =>
    if [a, b, c, d, e, f].all Char.isDigit && Decimal.ofDigits [a, b] ≤ 23 &&
        Decimal.ofDigits [c, d] ≤ 59 && Decimal.ofDigits [e, f] ≤ 60 then
      let shown := [a, b, ':', c, d, ':', e, f]
      match rest with
      | '.' :: rest =>
        match rest.span Char.isDigit with
        | ([], _) => none
        | (fraction, rest) => some (shown ++ shownFraction fraction, rest)
      | _ => some (shown, rest)
    else none
  | _ => none

/-- The offset from universal time that ends a moment, as it is shown; none if
there is none. -/
def offset? : List Char → Option (List Char)
  | [] => some []
  | ['Z'] | ['z'] => some ['Z']
  | [sign, a, b, ':', c, d] =>
    if (sign = '+' || sign = '-') && [a, b, c, d].all Char.isDigit &&
        Decimal.ofDigits [a, b] ≤ 23 && Decimal.ofDigits [c, d] ≤ 59 then
      let isZero := Decimal.ofDigits [a, b, c, d] == 0
      some [if isZero then '+' else sign, a, b, ':', c, d]
    else none
  | _ => none

/-- A date, a time of day, or both with a letter or a blank between them. -/
def moment? (chars : List Char) : Option Tree :=
  match date? chars with
  | some (date, []) => some (.moment (String.ofList date))
  | some (date, mark :: rest) =>
    if mark = 'T' || mark = 't' || mark = ' ' then do
      let (time, rest) ← time? rest
      let offset ← offset? rest
      return .moment (String.ofList (date ++ 'T' :: (time ++ offset)))
    else none
  | none =>
    match time? chars with
    | some (time, []) => some (.moment (String.ofList time))
    | _ => none

def atom? (chars : List Char) : Option Tree :=
  if chars = "true".toList then some (.boolean true)
  else if chars = "false".toList then some (.boolean false)
  else
    match moment? chars with
    | some tree => some tree
    | none => number? chars

/-- The characters of an atom at the head of a text and what follows them. The
blank between a date and a time of day belongs to the atom. -/
def atomSpan (chars : List Char) : List Char × List Char :=
  let (atom, rest) := chars.span isAtomChar
  match date? atom, rest with
  | some (_, []), ' ' :: next :: rest =>
    if next.isDigit then
      let (time, rest) := (next :: rest).span isAtomChar
      (atom ++ ' ' :: time, rest)
    else (atom, ' ' :: next :: rest)
  | _, _ => (atom, rest)

end ProfileDrift.Toml
