import ProfileDrift.Proofs.NumberText

namespace ProfileDrift.Json

section Quoted

theorem hexValue?_hexDigit : ∀ value < 16, Text.hexValue? (hexDigit value) = some value := by
  decide

theorem ofHex?_control {code : ℕ} (small : code < 0x20) :
    Text.ofHex? ['0', '0', hexDigit (code / 16), hexDigit (code % 16)] = some code := by
  have zero : Text.hexValue? '0' = some 0 := by decide
  have high := hexValue?_hexDigit (code / 16) (by omega)
  have low := hexValue?_hexDigit (code % 16) (by omega)
  simp only [Text.ofHex?, List.foldlM_cons, List.foldlM_nil, zero, high, low, Option.map_some,
    Option.bind_eq_bind, Option.bind_some]
  congr 1
  omega

theorem joined?_unit {code : ℕ} (small : code < 0x20) (pieces : List Piece) :
    joined? (.unit code :: pieces) = (joined? pieces).map (Char.ofNat code :: ·) := by
  have notHigh : isHighSurrogate code = false := by
    simp only [isHighSurrogate, Bool.and_eq_false_iff, decide_eq_false_iff_not]
    omega
  have notLow : isLowSurrogate code = false := by
    simp only [isLowSurrogate, Bool.and_eq_false_iff, decide_eq_false_iff_not]
    omega
  rw [joined?.eq_def]
  simp only [notHigh, notLow, Bool.false_eq_true, if_false]

/-- A character is one piece of a quoted text, whatever follows it. -/
def IsPiece (char : Char) (written : List Char) : Prop :=
  ∃ piece, (∀ rest pieces after, pieces? rest = some (pieces, after) →
      pieces? (written ++ rest) = some (piece :: pieces, after)) ∧
    ∀ pieces, joined? (piece :: pieces) = (joined? pieces).map (char :: ·)

theorem isPiece_of_escape {char letter : Char} (meant : escape? letter = some char) :
    IsPiece char ['\\', letter] := by
  have notUnit : letter ≠ 'u' := by
    rintro rfl
    cases meant
  refine ⟨.char char, fun rest pieces after read => ?_, fun _ => rfl⟩
  rw [List.cons_append, List.singleton_append, pieces?, meant, read]
  exact fun _ _ _ _ _ same => absurd same notUnit

theorem isPiece_escaped (char : Char) : IsPiece char (escaped char) := by
  unfold escaped
  split_ifs with quote backslash back feed line carriage tab control
  · exact isPiece_of_escape (by rw [quote]; rfl)
  · exact isPiece_of_escape (by rw [backslash]; rfl)
  · exact isPiece_of_escape (by rw [back]; rfl)
  · exact isPiece_of_escape (by rw [feed]; rfl)
  · exact isPiece_of_escape (by rw [line]; rfl)
  · exact isPiece_of_escape (by rw [carriage]; rfl)
  · exact isPiece_of_escape (by rw [tab]; rfl)
  · refine ⟨.unit char.toNat, fun rest pieces after read => ?_, fun pieces => ?_⟩
    · simp only [List.cons_append, List.nil_append, pieces?, ofHex?_control control, read]
    · rw [joined?_unit control, Char.ofNat_toNat]
  · refine ⟨.char char, fun rest pieces after read => ?_, fun _ => rfl⟩
    rw [List.singleton_append, pieces?.eq_def]
    split <;> simp_all

/-- A text is read back as it was quoted, and reading stops behind the closing quote. -/
theorem quotedText?_escaped (text : String) (rest : List Char) :
    quotedText? (text.toList.flatMap escaped ++ '"' :: rest) = some (some text, rest) := by
  have read : ∀ chars : List Char, ∃ pieces,
      pieces? (chars.flatMap escaped ++ '"' :: rest) = some (pieces, rest) ∧
        joined? pieces = some chars := by
    intro chars
    induction chars with
    | nil => exact ⟨[], by rw [List.flatMap_nil, List.nil_append, pieces?], rfl⟩
    | cons char chars ih =>
      obtain ⟨pieces, read, joined⟩ := ih
      obtain ⟨piece, first, meant⟩ := isPiece_escaped char
      refine ⟨piece :: pieces, ?_, by rw [meant, joined, Option.map_some]⟩
      rw [List.flatMap_cons, List.append_assoc]
      exact first _ _ _ read
  obtain ⟨pieces, read, joined⟩ := read text.toList
  rw [quotedText?, read, Option.map_some]
  dsimp only
  rw [joined, Option.map_some, String.ofList_toList]

end Quoted

open Decode (Tree Items Entries ofValue ofValues ofMembers)

namespace Value

mutual

/-- The value that its text stands for: null is written for a number that is not finite. -/
def plain : Value → Value
  | number (.decimal value) => if value.isFinite then number (.decimal value) else null
  | array items => array (plains items)
  | object members => object (plainMembers members)
  | value => value

def plains : List Value → List Value
  | [] => []
  | item :: items => item.plain :: plains items

def plainMembers : List (String × Value) → List (String × Value)
  | [] => []
  | (name, value) :: members => (name, value.plain) :: plainMembers members

end

mutual

/-- What a reader makes of the text of a value, with null for a number that is not finite. -/
def reread [NumberReader] : Value → Tree
  | null => .null
  | boolean value => .boolean value
  | number (.integer value) => .number (NumberReader.reread? (.integer value))
  | number (.decimal value) =>
    if value.isFinite then .number (NumberReader.reread? (.decimal value)) else .null
  | text value => .text (some value)
  | array items => .sequence (rereads items)
  | object members => .table (rereadMembers members)

def rereads [NumberReader] : List Value → Items
  | [] => .closed
  | item :: items => .more item.reread (rereads items)

def rereadMembers [NumberReader] : List (String × Value) → Entries
  | [] => .closed
  | (name, value) :: members => .more (some name) value.reread (rereadMembers members)

end

mutual

/-- Every whole number in the value is within sixty-four bits, signed or not. -/
def Bounded : Value → Prop
  | number (.integer value) => -2 ^ 63 ≤ value ∧ value < 2 ^ 64
  | array items => AllBounded items
  | object members => MembersBounded members
  | _ => True

def AllBounded : List Value → Prop
  | [] => True
  | item :: items => item.Bounded ∧ AllBounded items

def MembersBounded : List (String × Value) → Prop
  | [] => True
  | (_, value) :: members => value.Bounded ∧ MembersBounded members

end

mutual

theorem reread_eq [NumberReader] [LawfulNumberReader] :
    ∀ value : Value, value.Bounded → value.reread = ofValue value.plain
  | null, _ | boolean _, _ | text _, _ => rfl
  | number (.integer value), bounded => by
    rw [reread, NumberReader.reread?_integer bounded.1 bounded.2]
    rfl
  | number (.decimal value), _ => by
    rw [reread, plain]
    split
    · rename_i finite
      rw [LawfulNumberReader.reread?_eq value finite]
      rfl
    · rfl
  | array items, bounded => by rw [reread, plain, rereads_eq items bounded, ofValue]
  | object members, bounded => by rw [reread, plain, rereadMembers_eq members bounded, ofValue]

theorem rereads_eq [NumberReader] [LawfulNumberReader] :
    ∀ items : List Value, AllBounded items → rereads items = ofValues (plains items)
  | [], _ => rfl
  | item :: items, bounded => by
    rw [rereads, plains, reread_eq item bounded.1, rereads_eq items bounded.2, ofValues]

theorem rereadMembers_eq [NumberReader] [LawfulNumberReader] :
    ∀ members : List (String × Value), MembersBounded members →
      rereadMembers members = ofMembers (plainMembers members)
  | [], _ => rfl
  | (name, value) :: members, bounded => by
    rw [rereadMembers, plainMembers, reread_eq value bounded.1,
      rereadMembers_eq members bounded.2, ofMembers]

end

end Value

theorem dropBlanks_cons {char : Char} (rest : List Char) (mark : isBlank char = false) :
    dropBlanks (char :: rest) = char :: rest := by
  rw [dropBlanks, if_neg (by rw [mark]; exact Bool.false_ne_true)]

theorem apart_cons {char : Char} (rest : List Char)
    (member : char ∈ [',', ']', '\x7d', ' ', '\n', '\t', '\r']) : Apart (char :: rest) := by
  refine ⟨?_, ?_, ?_, ?_⟩
  · rintro _ ⟨⟩
    simp only [List.mem_cons, List.not_mem_nil, or_false] at member
    rcases member with rfl | rfl | rfl | rfl | rfl | rfl | rfl <;> rfl
  all_goals
    intro same
    obtain rfl := Option.some.inj same
    revert member
    decide

/-- A number begins with a digit or a minus sign. -/
theorem head_of_number? [NumberReader] {chars : List Char} {read : Option Number × List Char}
    (found : number? chars = some read) :
    ∃ first rest, chars = first :: rest ∧ (first = '-' ∨ first.isDigit = true) := by
  have digit {chars : List Char} {parts : List Char × List Char}
      (whole : whole? chars = some parts) :
      ∃ first rest, chars = first :: rest ∧ first.isDigit = true := by
    cases chars with
    | nil => cases whole
    | cons first rest =>
      refine ⟨first, rest, rfl, ?_⟩
      by_contra other
      have nothing : spanDigits (first :: rest) = ([], first :: rest) := by
        rw [spanDigits, List.span_eq_takeWhile_dropWhile, List.takeWhile_cons_of_neg other,
          List.dropWhile_cons_of_neg other]
      rw [whole?, nothing] at whole
      cases whole
  unfold number? at found
  split at found
  rename_i signed
  split at signed
  · exact ⟨'-', _, rfl, .inl rfl⟩
  · cases signed
    obtain ⟨_, whole, _⟩ := Option.bind_eq_some_iff.mp found
    obtain ⟨first, rest, same, numeral⟩ := digit whole
    exact ⟨first, rest, same, .inr numeral⟩

/-- A character that a value other than a sequence or a table can begin with. -/
structure BeginsScalar (char : Char) : Prop where
  blank : isBlank char = false
  bracket : char ≠ '['
  close : char ≠ ']'
  brace : char ≠ '\x7b'

theorem ne_of_numeral {char : Char} (numeral : char = '-' ∨ char.isDigit = true) {mark : Char}
    (sign : mark ≠ '-') (digit : mark.isDigit = false) : char ≠ mark := by
  rintro rfl
  rcases numeral with same | same
  · exact sign same
  · rw [digit] at same
    cases same

theorem beginsScalar_of_numeral {char : Char} (numeral : char = '-' ∨ char.isDigit = true) :
    BeginsScalar char := by
  have other {mark : Char} := @ne_of_numeral char numeral mark
  refine ⟨?_, other (by decide) (by decide), other (by decide) (by decide),
    other (by decide) (by decide)⟩
  have space := @other ' ' (by decide) (by decide)
  have line := @other '\n' (by decide) (by decide)
  have tab := @other '\t' (by decide) (by decide)
  have carriage := @other '\r' (by decide) (by decide)
  simp only [isBlank, space, line, tab, carriage, decide_false, Bool.or_self]

theorem scalar_of_number? [NumberReader] {chars : List Char} {number : Option Number} {rest : List Char}
    (found : number? chars = some (number, rest)) : scalar chars = (.number number, rest) := by
  obtain ⟨first, others, same, numeral⟩ := head_of_number? found
  have other {mark : Char} := @ne_of_numeral first numeral mark
  unfold scalar
  split
  · exact absurd (List.cons.inj same).1.symm (other (by decide) (by decide))
  · exact absurd (List.cons.inj same).1.symm (other (by decide) (by decide))
  · exact absurd (List.cons.inj same).1.symm (other (by decide) (by decide))
  · exact absurd (List.cons.inj same).1.symm (other (by decide) (by decide))
  · rw [found]

namespace Value

/-- A value that is neither an array nor an object. -/
inductive IsScalar : Value → Prop
  | null : IsScalar null
  | boolean (value) : IsScalar (boolean value)
  | number (value) : IsScalar (number value)
  | text (value) : IsScalar (text value)

theorem beginsScalar_of_letter {char : Char} (member : char ∈ ['n', 't', 'f', '"']) :
    BeginsScalar char := by
  simp only [List.mem_cons, List.not_mem_nil, or_false] at member
  rcases member with rfl | rfl | rfl | rfl <;>
    exact ⟨by decide, by decide, by decide, by decide⟩

theorem scalar_of_reads [NumberReader] {number : Option Number} {text rest : List Char}
    (read : ∀ rest, Apart rest → number? (text ++ rest) = some (number, rest))
    (apart : Apart rest) :
    scalar (text ++ rest) = (.number number, rest) ∧
      ∃ first others, text = first :: others ∧ BeginsScalar first := by
  refine ⟨scalar_of_number? (read rest apart), ?_⟩
  obtain ⟨first, others, same, head⟩ := head_of_number? (read [] apart_nil)
  rw [List.append_nil] at same
  exact ⟨first, others, same, beginsScalar_of_numeral head⟩

/-- A value that is neither an array nor an object is read back as it was printed. -/
theorem IsScalar.read [NumberReader] {value : Value} (isScalar : value.IsScalar)
    {rest : List Char} (apart : Apart rest) :
    scalar (value.chars ++ rest) = (value.reread, rest) ∧
      ∃ first others, value.chars = first :: others ∧ BeginsScalar first := by
  have nothing : scalar ("null".toList ++ rest) = (.null, rest) := rfl
  cases isScalar with
  | null => exact ⟨nothing, 'n', _, rfl, beginsScalar_of_letter (by decide)⟩
  | boolean value =>
    cases value with
    | true => exact ⟨rfl, 't', _, rfl, beginsScalar_of_letter (by decide)⟩
    | false => exact ⟨rfl, 'f', _, rfl, beginsScalar_of_letter (by decide)⟩
  | text value =>
    refine ⟨?_, '"', _, rfl, beginsScalar_of_letter (by decide)⟩
    have read := quotedText?_escaped value rest
    change scalar ('"' :: (value.toList.flatMap escaped ++ ['"'] ++ rest)) = _
    rw [List.append_assoc, List.singleton_append, scalar, read]
    rfl
  | number value =>
    cases value with
    | integer value => exact scalar_of_reads (fun _ => number?_integerText value) apart
    | decimal value =>
      by_cases finite : value.isFinite = true
      · have written : (Value.number (.decimal value)).chars = Decimal.shortestText value :=
          if_pos finite
        have kept : (Value.number (.decimal value)).reread =
            .number (NumberReader.reread? (.decimal value)) := if_pos finite
        rw [written, kept]
        exact scalar_of_reads (fun _ apart => number?_shortestText finite apart) apart
      · have written : (Value.number (.decimal value)).chars = "null".toList := if_neg finite
        have lost : (Value.number (.decimal value)).reread = .null := if_neg finite
        rw [written, lost]
        exact ⟨nothing, 'n', _, rfl, beginsScalar_of_letter (by decide)⟩

end Value

end ProfileDrift.Json
