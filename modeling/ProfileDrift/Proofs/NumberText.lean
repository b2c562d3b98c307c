import ProfileDrift.Json.Numbers
import ProfileDrift.Json.Printer
import ProfileDrift.Json.Reader
import ProfileDrift.Proofs.DecimalReading

namespace ProfileDrift

namespace Decimal

def AllDigits (text : List Char) : Prop := ∀ char ∈ text, char.isDigit = true

theorem AllDigits.append {front back : List Char} (first : AllDigits front)
    (second : AllDigits back) : AllDigits (front ++ back) := fun char member =>
  (List.mem_append.mp member).elim (first char) (second char)

theorem allDigits_digits (number : ℕ) : AllDigits (digits number) := fun _ member =>
  Nat.isDigit_of_mem_toDigits (by decide) (by decide) member

theorem allDigits_zeros (count : ℕ) : AllDigits (List.replicate count '0') := by
  intro char member
  rw [List.eq_of_mem_replicate member]
  rfl

theorem ofDigits_eq (text : List Char) : ofDigits text = Nat.ofDigitChars 10 text 0 :=
  Nat.ofDigitChars_eq_foldl.symm

theorem ofDigits_digits (number : ℕ) : ofDigits (digits number) = number := by
  rw [ofDigits_eq]
  exact Nat.ofDigitChars_ten_toDigits

theorem ofDigits_append_zeros (text : List Char) (count : ℕ) :
    ofDigits (text ++ List.replicate count '0') = ofDigits text * 10 ^ count := by
  rw [ofDigits_eq, ofDigits_eq, Nat.ofDigitChars_append, Nat.ofDigitChars_replicate_zero,
    Nat.mul_comm]

theorem ofDigits_zeros_append (count : ℕ) (text : List Char) :
    ofDigits (List.replicate count '0' ++ text) = ofDigits text := by
  rw [ofDigits_eq, ofDigits_eq, Nat.ofDigitChars_append, Nat.ofDigitChars_replicate_zero,
    Nat.mul_zero]

/-- No number but zero is written with a zero in front. -/
theorem head?_digits_ne_zero {number : ℕ} (positive : 0 < number) :
    (digits number).head? ≠ some '0' := by
  induction number using Nat.strongRecOn with
  | ind number ih =>
    unfold digits
    rw [Nat.toDigits_eq_if (by decide)]
    split
    · rename_i single
      have one : ∀ digit < 10, 0 < digit → Nat.digitChar digit ≠ '0' := by decide
      simpa using one number single positive
    · rename_i many
      have rest := ih (number / 10) (by omega) (by omega)
      unfold digits at rest
      rw [List.head?_append_of_ne_nil _ Nat.toDigits_ne_nil]
      exact rest

end Decimal

namespace Json

open Decimal

/-- A text with which no number goes on. -/
structure Apart (rest : List Char) : Prop where
  digit : ∀ char, rest.head? = some char → char.isDigit = false
  point : rest.head? ≠ some '.'
  mark : rest.head? ≠ some 'e' ∧ rest.head? ≠ some 'E'

theorem apart_nil : Apart [] :=
  ⟨fun _ => nofun, nofun, nofun, nofun⟩

theorem spanDigits_append {text rest : List Char} (all : AllDigits text)
    (stop : ∀ char, rest.head? = some char → char.isDigit = false) :
    spanDigits (text ++ rest) = (text, rest) := by
  have head : rest.takeWhile Char.isDigit = [] ∧ rest.dropWhile Char.isDigit = rest := by
    cases rest with
    | nil => exact ⟨rfl, rfl⟩
    | cons char rest =>
      have other := stop char rfl
      rw [List.takeWhile_cons_of_neg (by simp [other]),
        List.dropWhile_cons_of_neg (by simp [other])]
      exact ⟨rfl, rfl⟩
  rw [spanDigits, List.span_eq_takeWhile_dropWhile, List.takeWhile_append_of_pos all,
    List.dropWhile_append_of_pos all, head.1, head.2, List.append_nil]

/-- Digits that stand before a point: some, and no zero before others. -/
structure IsWhole (whole : List Char) : Prop where
  all : AllDigits whole
  nonempty : whole ≠ []
  leading : ∀ rest, whole = '0' :: rest → rest = []

theorem IsWhole.of_head {whole : List Char} (all : AllDigits whole) (nonempty : whole ≠ [])
    (leading : whole.head? ≠ some '0') : IsWhole whole :=
  ⟨all, nonempty, fun _ same => absurd (same ▸ rfl) leading⟩

theorem isWhole_zero : IsWhole ['0'] :=
  ⟨allDigits_zeros 1, by decide, fun _ same => (List.cons.inj same).2.symm⟩

theorem isWhole_digits (number : ℕ) : IsWhole (digits number) := by
  rcases Nat.eq_zero_or_pos number with rfl | positive
  · exact isWhole_zero
  · exact .of_head (allDigits_digits number) Nat.toDigits_ne_nil (head?_digits_ne_zero positive)

theorem whole?_append {whole rest : List Char} (good : IsWhole whole)
    (stop : ∀ char, rest.head? = some char → char.isDigit = false) :
    whole? (whole ++ rest) = some (whole, rest) := by
  rw [whole?, spanDigits_append good.all stop]
  split
  · rename_i none
    exact absurd (Prod.mk.inj none).1 good.nonempty
  · rename_i zero
    exact absurd (good.leading _ (Prod.mk.inj zero).1) (List.cons_ne_nil _ _)
  · rename_i same
    rw [← same]

theorem fraction?_point {fraction rest : List Char} (all : AllDigits fraction)
    (nonempty : fraction ≠ []) (stop : ∀ char, rest.head? = some char → char.isDigit = false) :
    fraction? ('.' :: (fraction ++ rest)) = some (fraction, rest) := by
  rw [fraction?, spanDigits_append all stop]
  cases fraction with
  | nil => exact absurd rfl nonempty
  | cons => rfl

theorem fraction?_none {rest : List Char} (other : rest.head? ≠ some '.') :
    fraction? rest = some ([], rest) := by
  unfold fraction?
  split
  · exact absurd rfl other
  · rfl

theorem exponent?_none {rest : List Char}
    (other : rest.head? ≠ some 'e' ∧ rest.head? ≠ some 'E') :
    exponent? rest = some (none, rest) := by
  cases rest with
  | nil => rfl
  | cons char rest =>
    have neither : ¬ (char = 'e' ∨ char = 'E') := by
      rintro (rfl | rfl)
      · exact other.1 rfl
      · exact other.2 rfl
    unfold exponent?
    exact if_neg neither

/-- An exponent as it is written behind its mark. -/
def power (exponent : ℤ) : List Char :=
  if 0 ≤ exponent then '+' :: integerText exponent else integerText exponent

theorem exponent?_power (exponent : ℤ) {rest : List Char}
    (stop : ∀ char, rest.head? = some char → char.isDigit = false) :
    exponent? ('e' :: (power exponent ++ rest)) = some (some exponent, rest) := by
  have size (number : ℕ) : ∃ first others,
      spanDigits (digits number ++ rest) = (first :: others, rest) ∧
        ofDigits (first :: others) = number := by
    have nonempty : digits number ≠ [] := Nat.toDigits_ne_nil
    obtain ⟨first, others, same⟩ := List.exists_cons_of_ne_nil nonempty
    refine ⟨first, others, ?_⟩
    rw [← same]
    exact ⟨spanDigits_append (allDigits_digits number) stop, ofDigits_digits number⟩
  unfold exponent?
  dsimp only
  rw [if_pos (.inl rfl)]
  cases exponent with
  | ofNat number =>
    have text : power (.ofNat number) = '+' :: digits number := if_pos (Int.natCast_nonneg number)
    obtain ⟨first, others, read, value⟩ := size number
    simp only [text, List.cons_append, read, value]
    rfl
  | negSucc number =>
    have text : power (.negSucc number) = '-' :: digits (number + 1) := if_neg (by omega)
    obtain ⟨first, others, read, value⟩ := size (number + 1)
    simp only [text, List.cons_append, read, value]
    rfl

/-- A number is read part by part. -/
theorem number?_of_parts [NumberReader] {negative : Bool} {whole fraction after behind rest : List Char}
    {mark : Option ℤ} (good : IsWhole whole)
    (stop : ∀ char, after.head? = some char → char.isDigit = false)
    (fractionRead : fraction? after = some (fraction, behind))
    (exponentRead : exponent? behind = some (mark, rest)) :
    number? ((if negative then ['-'] else []) ++ (whole ++ after)) =
      some (Number.ofLiteral ⟨negative, whole, fraction, mark.getD 0⟩
        (fraction.isEmpty && mark.isNone), rest) := by
  have wholeRead := whole?_append good stop
  unfold number?
  cases negative with
  | true =>
    simp only [if_pos, List.singleton_append, Option.bind_eq_bind, wholeRead, fractionRead,
      exponentRead, Option.bind_some]
    rfl
  | false =>
    rw [if_neg Bool.false_ne_true, List.nil_append]
    split
    rename_i signed
    split at signed
    · rename_i minus
      obtain ⟨first, others, same⟩ := List.exists_cons_of_ne_nil good.nonempty
      have digit : first.isDigit = true := good.all first (same ▸ List.mem_cons_self ..)
      rw [same, List.cons_append] at minus
      rw [(List.cons.inj minus).1] at digit
      cases digit
    · cases signed
      simp only [Option.bind_eq_bind, wholeRead, fractionRead, exponentRead, Option.bind_some]
      rfl

theorem Apart.integer {rest : List Char} (apart : Apart rest) :
    fraction? rest = some ([], rest) ∧ exponent? rest = some (none, rest) :=
  ⟨fraction?_none apart.point, exponent?_none apart.mark⟩

/-- A whole number is printed as its sign and its digits. -/
theorem exists_whole (value : ℤ) :
    ∃ literal : Literal, literal.negative = decide (value < 0) ∧
      literal.significand = value.natAbs ∧
      ∀ [NumberReader] rest, Apart rest → number? (integerText value ++ rest) =
        some (Number.ofLiteral literal true, rest) := by
  have read [NumberReader] (negative : Bool) (number : ℕ) {rest : List Char} (apart : Apart rest) :
      number? ((if negative then ['-'] else []) ++ (digits number ++ rest)) =
        some (Number.ofLiteral ⟨negative, digits number, [], 0⟩ true, rest) :=
    number?_of_parts (isWhole_digits number) apart.digit apart.integer.1 apart.integer.2
  have size (negative : Bool) (number : ℕ) :
      (Literal.mk negative (digits number) [] 0).significand = number := by
    rw [Literal.significand, List.append_nil, ofDigits_digits]
  cases value with
  | ofNat number => exact ⟨_, rfl, size false number, fun rest apart => read false number apart⟩
  | negSucc number =>
    exact ⟨_, (decide_eq_true (Int.negSucc_lt_zero number)).symm, size true (number + 1),
      fun rest apart => read true (number + 1) apart⟩

/-- The digits of a positive number. -/
structure Leading (text : List Char) : Prop where
  all : AllDigits text
  nonempty : text ≠ []
  head : text.head? ≠ some '0'

theorem leading_digits {number : ℕ} (positive : 0 < number) : Leading (digits number) :=
  ⟨allDigits_digits number, Nat.toDigits_ne_nil, head?_digits_ne_zero positive⟩

theorem stop_at {mark : Char} (other : mark.isDigit = false) (text : List Char) :
    ∀ char, (mark :: text).head? = some char → char.isDigit = false := by
  rintro char ⟨⟩
  exact other

/-- The text spells a decimal that is not a whole number, of this sign and size, whatever a
reader makes of it. -/
def Spells (negative : Bool) (text : List Char) (size : ℚ) : Prop :=
  ∃ literal : Literal, literal.negative = negative ∧
    (literal.significand * 10 ^ literal.scale : ℚ) = size ∧
    ∀ [NumberReader] rest, Apart rest →
      number? ((if negative then ['-'] else []) ++ (text ++ rest)) =
        some (Number.ofLiteral literal false, rest)

theorem spells_of_point (negative : Bool) {whole fraction : List Char} (good : IsWhole whole)
    (all : AllDigits fraction) (nonempty : fraction ≠ []) {size : ℚ}
    (size_eq : (ofDigits (whole ++ fraction) * 10 ^ (-fraction.length : ℤ) : ℚ) = size) :
    Spells negative (whole ++ '.' :: fraction) size := by
  refine ⟨⟨negative, whole, fraction, 0⟩, rfl, ?_, fun rest apart => ?_⟩
  · rw [← size_eq, Literal.significand, Literal.scale, zero_sub]
  · have fractionRead := fraction?_point all nonempty apart.digit
    have read : number? ((if negative then ['-'] else []) ++ (whole ++ _)) = some (_, rest) :=
      number?_of_parts good (stop_at rfl _) fractionRead apart.integer.2
    rw [List.isEmpty_eq_false_iff.mpr nonempty] at read
    rw [List.append_assoc, List.cons_append]
    exact read

theorem spells_pointed (negative : Bool) {text : List Char} (leading : Leading text)
    (before : ℤ) :
    Spells negative (pointed text before) (ofDigits text * 10 ^ (before - text.length)) := by
  unfold pointed
  split
  · rename_i small
    refine spells_of_point negative isWhole_zero ((allDigits_zeros _).append leading.all)
      (by simp [leading.nonempty]) ?_
    have zeros : ['0'] ++ (List.replicate (-before).toNat '0' ++ text) =
        List.replicate ((-before).toNat + 1) '0' ++ text := rfl
    rw [zeros, ofDigits_zeros_append, List.length_append, List.length_replicate]
    congr 2
    push_cast
    omega
  · split
    · rename_i large
      have good : IsWhole (text ++ List.replicate (before.toNat - text.length) '0') := by
        refine .of_head (leading.all.append (allDigits_zeros _)) (by simp [leading.nonempty]) ?_
        rw [List.head?_append_of_ne_nil _ leading.nonempty]
        exact leading.head
      refine spells_of_point negative good (allDigits_zeros 1) (by simp) ?_
      have zeros : text ++ List.replicate (before.toNat - text.length) '0' ++ List.replicate 1 '0' =
          text ++ List.replicate (before.toNat - text.length + 1) '0' := by
        rw [List.append_assoc, ← List.replicate_add]
      rw [zeros, ofDigits_append_zeros]
      push_cast
      rw [mul_assoc, ← zpow_natCast, ← zpow_add₀ (by norm_num)]
      congr 2
      rw [List.length_singleton]
      omega
    · rename_i positive inside
      have good : IsWhole (text.take before.toNat) := by
        have first : text.take before.toNat ≠ [] := by
          rw [Ne, List.take_eq_nil_iff]
          rintro (zero | none)
          · omega
          · exact leading.nonempty none
        refine .of_head (fun char member => leading.all char (List.mem_of_mem_take member)) first ?_
        rw [List.head?_take, if_neg (by omega)]
        exact leading.head
      refine spells_of_point negative good
        (fun char member => leading.all char (List.mem_of_mem_drop member)) ?_ ?_
      · rw [Ne, List.drop_eq_nil_iff]
        exact inside
      · rw [List.take_append_drop, List.length_drop]
        congr 2
        omega

theorem spells_scientific (negative : Bool) {text : List Char} (leading : Leading text)
    (exponent : ℤ) :
    Spells negative (scientific text exponent true)
      (ofDigits text * 10 ^ (exponent - (text.length - 1))) := by
  obtain ⟨first, others, rfl⟩ := List.exists_cons_of_ne_nil leading.nonempty
  have good : IsWhole [first] := by
    refine .of_head (fun char member => ?_) (List.cons_ne_nil _ _) leading.head
    exact leading.all char (List.mem_cons.mpr (.inl (List.mem_singleton.mp member)))
  have tail : AllDigits others := fun char member =>
    leading.all char (List.mem_cons_of_mem _ member)
  have written : (if 0 ≤ exponent ∧ true = true then '+' :: integerText exponent
      else integerText exponent) = power exponent := by
    simp only [power, and_true]
  refine ⟨⟨negative, [first], others, exponent⟩, rfl, ?_, fun rest apart => ?_⟩
  · rw [Literal.significand, Literal.scale, List.singleton_append]
    congr 2
    rw [List.length_cons]
    push_cast
    omega
  · have exponentRead := exponent?_power exponent apart.digit
    unfold scientific
    rw [written]
    cases others with
    | nil =>
      have fractionRead : fraction? ('e' :: (power exponent ++ rest)) = some ([], _) :=
        fraction?_none fun same => absurd (Option.some.inj same) (by decide)
      exact number?_of_parts good (stop_at rfl _) fractionRead exponentRead
    | cons second more =>
      have fractionRead : fraction? ('.' :: (second :: more ++ 'e' :: (power exponent ++ rest))) =
          some (second :: more, _) :=
        fraction?_point tail (List.cons_ne_nil second more) (stop_at rfl _)
      have point := stop_at (show ('.' : Char).isDigit = false from rfl)
        (second :: more ++ 'e' :: (power exponent ++ rest))
      have read := @number?_of_parts _ negative _ _ _ _ _ _ good point fractionRead exponentRead
      dsimp only
      rw [List.cons_append, List.cons_append, List.append_assoc, List.cons_append]
      exact read

theorem exists_literal_of_spells {value : Float} (finite : value.isFinite = true)
    {text : List Char} {size : ℚ} (spells : Spells (isNegative value) text size)
    (zero : (Dyadic.ofFloat value).mantissa = 0 → size = 0)
    (covers : 0 < (Dyadic.ofFloat value).mantissa → (Dyadic.ofFloat value).Covers size) :
    ∃ literal : Literal, literal.toFloat = value ∧
      ∀ [NumberReader] rest, Apart rest → number? (sign value ++ text ++ rest) =
        some (Number.ofLiteral literal false, rest) := by
  obtain ⟨literal, sign_eq, size_eq, read⟩ := spells
  refine ⟨literal, Literal.toFloat_eq finite sign_eq (fun none => ?_) fun some => ?_,
    fun rest apart => ?_⟩
  · have nothing := size_eq.trans (zero none)
    rcases mul_eq_zero.mp nothing with none | none
    · exact_mod_cast none
    · exact absurd none (zpow_ne_zero _ (by norm_num))
  · rw [size_eq]
    exact covers some
  · have signs : sign value = if isNegative value = true then ['-'] else [] := rfl
    rw [signs, List.append_assoc]
    exact read rest apart

/-- A finite double is printed as a decimal to which it is the nearest double. -/
theorem exists_literal {value : Float} (finite : value.isFinite = true) :
    ∃ literal : Literal, literal.toFloat = value ∧
      ∀ [NumberReader] rest, Apart rest → number? (shortestText value ++ rest) =
        some (Number.ofLiteral literal false, rest) := by
  unfold shortestText
  split
  · rename_i zero
    have spells := spells_of_point (isNegative value) isWhole_zero (allDigits_zeros 1)
      (List.cons_ne_nil _ _) rfl
    have nothing : ofDigits (['0'] ++ List.replicate 1 '0') = 0 := rfl
    rw [nothing, Nat.cast_zero, zero_mul] at spells
    exact exists_literal_of_spells finite spells (fun _ => rfl) fun some => absurd zero some.ne'
  · rename_i nonzero
    have positive : 0 < (Dyadic.ofFloat value).mantissa := Nat.pos_of_ne_zero nonzero
    have canonical := Double.canonical_ofFloat value
    have covers := Dyadic.covers_shortest canonical positive
    have leading := leading_digits (Dyadic.shortest_significand_pos canonical positive)
    unfold shortestDigits
    dsimp only
    generalize (Dyadic.ofFloat value).shortest = scaled at covers leading ⊢
    have exact : (scaled.significand : ℚ) = ofDigits (digits scaled.significand) := by
      rw [ofDigits_digits]
    rw [exact] at covers
    refine exists_literal_of_spells finite ?_ (fun none => absurd none nonzero) fun _ => covers
    split
    · have spells := spells_pointed (isNegative value) leading
        (scaled.exponent + (digits scaled.significand).length - 1 + 1)
      have place : scaled.exponent + (digits scaled.significand).length - 1 + 1 -
          (digits scaled.significand).length = scaled.exponent := by omega
      rw [place] at spells
      exact spells
    · have spells := spells_scientific (isNegative value) leading
        (scaled.exponent + (digits scaled.significand).length - 1)
      have place : scaled.exponent + (digits scaled.significand).length - 1 -
          ((digits scaled.significand).length - 1) = scaled.exponent := by omega
      rw [place] at spells
      exact spells

/-- What a reader makes of the text of a number; nothing if it exceeds every double. -/
def NumberReader.reread? [NumberReader] (number : Number) : Option Number :=
  (number? number.chars).bind (·.1)

theorem number?_chars [NumberReader] {number : Number} {found : Option Number}
    (read : ∀ rest, Apart rest → number? (number.chars ++ rest) = some (found, rest))
    {rest : List Char} (apart : Apart rest) :
    NumberReader.reread? number = found ∧
      number? (number.chars ++ rest) = some (NumberReader.reread? number, rest) := by
  have alone := read [] apart_nil
  rw [List.append_nil] at alone
  have same : NumberReader.reread? number = found := by
    rw [NumberReader.reread?, alone]
    rfl
  exact ⟨same, same ▸ read rest apart⟩

theorem number?_integerText [NumberReader] (value : ℤ) {rest : List Char} (apart : Apart rest) :
    number? (integerText value ++ rest) =
      some (NumberReader.reread? (.integer value), rest) := by
  obtain ⟨literal, -, -, read⟩ := exists_whole value
  exact (@number?_chars _ (.integer value) _ read _ apart).2

/-- A whole number within sixty-four bits is read back as it was printed. -/
theorem NumberReader.reread?_integer [NumberReader] {value : ℤ} (least : -2 ^ 63 ≤ value)
    (less : value < 2 ^ 64) : reread? (.integer value) = some (.integer value) := by
  obtain ⟨literal, sign, size, read⟩ := exists_whole value
  rw [(@number?_chars _ (.integer value) _ read _ apart_nil).1]
  have pow64 : Nat.pow 2 64 = 2 ^ 64 := rfl
  have pow63 : Nat.pow 2 63 = 2 ^ 63 := rfl
  simp only [Number.ofLiteral, sign, size, pow64, pow63, Bool.true_and]
  rcases lt_or_ge value 0 with negative | nonnegative
  · have some : 0 < value.natAbs := by omega
    have within : value.natAbs ≤ 2 ^ 63 := by omega
    simp only [negative, some, within, decide_true, Bool.not_true, Bool.false_and,
      Bool.false_eq_true, if_false, Bool.and_self, if_true]
    exact congrArg (fun read => Option.some (Number.integer read)) (by omega)
  · have within : value.natAbs < 2 ^ 64 := by omega
    simp only [nonnegative.not_gt, within, decide_false, decide_true, Bool.not_false,
      Bool.and_self, if_true]
    exact congrArg (fun read => Option.some (Number.integer read)) (by omega)

theorem chars_decimal {value : Float} (finite : value.isFinite = true) :
    (Number.decimal value).chars = shortestText value := if_pos finite

theorem number?_shortestText [NumberReader] {value : Float} (finite : value.isFinite = true)
    {rest : List Char} (apart : Apart rest) :
    number? (shortestText value ++ rest) =
      some (NumberReader.reread? (.decimal value), rest) := by
  obtain ⟨literal, -, read⟩ := exists_literal finite
  rw [← chars_decimal finite] at read ⊢
  exact (number?_chars read apart).2

theorem NumberReader.reread?_eq_ofLiteral {value : Float} (finite : value.isFinite = true) :
    ∃ literal : Literal, literal.toFloat = value ∧
      ∀ [NumberReader], reread? (.decimal value) = Number.ofLiteral literal false := by
  obtain ⟨literal, nearest, read⟩ := exists_literal finite
  refine ⟨literal, nearest, ?_⟩
  rw [← chars_decimal finite] at read
  exact (number?_chars read apart_nil).1

/-- What a reader reads from the text of a finite double is a double. -/
theorem NumberReader.reread?_decimal [NumberReader] {value : Float}
    (finite : value.isFinite = true) :
    reread? (.decimal value) = none ∨ ∃ read, reread? (.decimal value) = some (.decimal read) := by
  obtain ⟨literal, -, same⟩ := reread?_eq_ofLiteral finite
  rw [same, Number.ofLiteral]
  simp only [Bool.false_and, Bool.false_eq_true, if_false]
  split
  · exact .inr ⟨_, rfl⟩
  · exact .inl rfl

/-- A reader that reads every finite double back as it was printed. -/
class LawfulNumberReader [NumberReader] : Prop where
  reread?_eq (value : Float) : value.isFinite = true →
    NumberReader.reread? (.decimal value) = some (.decimal value)

namespace Nearest

scoped instance lawful : LawfulNumberReader where
  reread?_eq value finite := by
    obtain ⟨literal, nearest, same⟩ := NumberReader.reread?_eq_ofLiteral finite
    have kept : NumberReader.toFloat literal = value := nearest
    rw [same, Number.ofLiteral]
    simp only [Bool.false_and, Bool.false_eq_true, if_false, kept, finite, if_true]

end Nearest

/-- The reader that the program runs with is not lawful: the ratio of an amount of twenty
to one of eleven is read as a neighbour of the double that was printed. -/
theorem Stepwise.not_lawful : ¬ @LawfulNumberReader .stepwise := by
  intro lawful
  have kept := lawful.reread?_eq (20.0 / 11.0) (by decide +kernel)
  have lost : (@NumberReader.reread? .stepwise (.decimal (20.0 / 11.0))).any
      (fun read => read.toFloat == (20.0 / 11.0 : Float)) = false := by decide +kernel
  rw [kept] at lost
  exact absurd lost (by decide +kernel)

end Json

end ProfileDrift
