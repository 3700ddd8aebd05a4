import Mathlib.Data.List.TakeWhile
import SchemaCompiler.Json
import SchemaCompiler.Json.Document
import SchemaCompiler.Proofs.Decimal

/-!
# Numbers are read as they were written

A number has no closing mark: its reader goes on as long as digits, a point or an exponent come. So
what is known of the text of a number alone carries over to the same text inside an array or object
only because of what follows it there, a comma or a closing bracket (`readNumber_append`).

Integers are shown to come back from their digits. That the digits of a float lead back to it is a
property of the two conversions, and is left to those who use it.
-/

namespace SchemaCompiler

namespace Json

namespace Document

/-- Whether a text ends, or goes on with what stands after a value inside an array or object. -/
def Delimited (rest : List Char) : Prop :=
  ∀ character ∈ rest.head?, character = ',' ∨ character = ']' ∨ character = '\x7d'

variable {text rest : List Char}

theorem delimited_nil : Delimited [] := by
  simp [Delimited]

/-! ## What follows a number -/

theorem readDigits_suffix (text : List Char) : (readDigits text).2 <:+ text :=
  List.dropWhile_suffix _

theorem readDigits_append (delimited : Delimited rest) :
    readDigits (text ++ rest) = ((readDigits text).1, (readDigits text).2 ++ rest) := by
  induction text with
  | nil =>
      cases rest with
      | nil => rfl
      | cons character rest =>
          rcases delimited character rfl with rfl | rfl | rfl <;> rfl
  | cons character text ih =>
      by_cases digit : character.isDigit
      · simpa [readDigits, digit] using ih
      · simp [readDigits, digit]

variable {negative : Bool} {whole : List Nat} {fraction : Option (List Nat)} {value : Option Number}

/-- The digits that end a literal, and the number that they complete. -/
def readLastDigits (denoted : List Nat → Option Number) (text : List Char) : Document × List Char :=
  match readDigits text with
  | ([], rest) => digitFault rest
  | (digits, rest) => (.number (denoted digits), rest)

theorem readLastDigits_append {denoted : List Nat → Option Number} (delimited : Delimited rest)
    (read : readLastDigits denoted text = (.number value, [])) :
    readLastDigits denoted (text ++ rest) = (.number value, rest) := by
  rcases digits : readDigits text with ⟨_ | ⟨digit, digits⟩, left⟩
  · simp [readLastDigits, digits, digitFault] at read
  · simp only [readLastDigits, digits, readDigits_append delimited, Prod.mk.injEq] at read ⊢
    simp [read]

theorem readLastDigits_suffix (denoted : List Nat → Option Number) (text : List Char) :
    (readLastDigits denoted text).2 <:+ text := by
  have left_suffix := readDigits_suffix text
  rcases digits : readDigits text with ⟨_ | ⟨digit, digits⟩, left⟩
  · simp [readLastDigits, digits, digitFault]
  · simpa [readLastDigits, digits] using left_suffix

/-- An exponent without a sign. -/
theorem readExponent_unsigned {letter : Char} {power : List Char}
    (exponent : letter = 'e' ∨ letter = 'E')
    (unsigned : ∀ character ∈ power.head?, character ≠ '+' ∧ character ≠ '-') :
    readExponent negative whole fraction (letter :: power) =
      readLastDigits (fun digits =>
        Number.ofLiteral? ⟨negative, whole, fraction, some (false, digits)⟩) power := by
  rcases power with _ | ⟨sign, power⟩
  · rcases exponent with rfl | rfl <;> rfl
  · obtain ⟨plus, minus⟩ := unsigned sign rfl
    -- With the marks taken apart, both sides read the same digits.
    rcases exponent with rfl | rfl
    · simp [readExponent, plus, minus]
      rfl
    · simp [readExponent, plus, minus]
      rfl

/-- The rest of a literal is an exponent, with its mark and digits, or there is none. -/
theorem readExponent_cases (negative : Bool) (whole : List Nat) (fraction : Option (List Nat))
    (text : List Char) :
    (∃ mark digits downward, text = mark ++ digits ∧ ∀ {rest}, Delimited rest →
      readExponent negative whole fraction (text ++ rest) =
        readLastDigits (fun digits =>
          Number.ofLiteral? ⟨negative, whole, fraction, some (downward, digits)⟩)
          (digits ++ rest)) ∨
    ∀ {rest}, Delimited rest → readExponent negative whole fraction (text ++ rest) =
      (.number (Number.ofLiteral? ⟨negative, whole, fraction, none⟩), text ++ rest) := by
  rcases text with _ | ⟨letter, power⟩
  · right
    intro rest delimited
    rcases rest with _ | ⟨character, rest⟩
    · rfl
    · rcases delimited character rfl with rfl | rfl | rfl <;> rfl
  by_cases exponent : letter = 'e' ∨ letter = 'E'
  · left
    rcases power with _ | ⟨sign, power⟩
    · refine ⟨[letter], [], false, rfl, fun delimited => readExponent_unsigned exponent ?_⟩
      intro character next
      rcases delimited character next with rfl | rfl | rfl <;> decide
    by_cases plus : sign = '+'
    · subst plus
      refine ⟨[letter, '+'], power, false, rfl, fun _ => ?_⟩
      rcases exponent with rfl | rfl <;> rfl
    by_cases minus : sign = '-'
    · subst minus
      refine ⟨[letter, '-'], power, true, rfl, fun _ => ?_⟩
      rcases exponent with rfl | rfl <;> rfl
    · refine ⟨[letter], sign :: power, false, rfl, fun _ => readExponent_unsigned exponent ?_⟩
      simp [plus, minus]
  · right
    intro rest delimited
    rw [not_or] at exponent
    simp [readExponent, exponent]

theorem readExponent_append (delimited : Delimited rest)
    (read : readExponent negative whole fraction text = (.number value, [])) :
    readExponent negative whole fraction (text ++ rest) = (.number value, rest) := by
  rcases readExponent_cases negative whole fraction text with
    ⟨mark, digits, downward, _, power⟩ | noPower
  · have alone := power delimited_nil
    rw [List.append_nil, List.append_nil] at alone
    rw [power delimited]
    exact readLastDigits_append delimited (alone ▸ read)
  · have alone := noPower delimited_nil
    rw [List.append_nil, read, Prod.mk.injEq] at alone
    rw [noPower delimited, ← alone.1, ← alone.2, List.nil_append]

theorem readExponent_suffix (text : List Char) :
    (readExponent negative whole fraction text).2 <:+ text := by
  rcases readExponent_cases negative whole fraction text with
    ⟨mark, digits, downward, text_eq, power⟩ | noPower
  · have alone := power delimited_nil
    rw [List.append_nil, List.append_nil] at alone
    rw [alone, text_eq]
    exact (readLastDigits_suffix _ digits).trans (List.suffix_append mark digits)
  · have alone := noPower delimited_nil
    rw [List.append_nil] at alone
    simp [alone]

theorem readNumber_append (delimited : Delimited rest)
    (read : readNumber negative text = (.number value, [])) :
    readNumber negative (text ++ rest) = (.number value, rest) := by
  rcases digits : readDigits text with ⟨whole, left⟩
  unfold readNumber at read ⊢
  rw [digits] at read
  rw [readDigits_append delimited, digits]
  split at read
  · simp [digitFault] at read
  · simp at read
  · rename_i whole left whole_ne noZero digits
    cases digits
    rcases digits : readDigits left with ⟨fraction, left⟩
    simp only [digits, List.cons_append, readDigits_append delimited] at read ⊢
    rcases fraction with _ | ⟨digit, fraction⟩
    · simp [digitFault] at read
    · exact readExponent_append delimited read
  · rename_i whole left whole_ne noZero noPoint digits
    cases digits
    have noPoint : ∀ tail, left ++ rest ≠ '.' :: tail := by
      intro tail point
      rcases left with _ | ⟨character, left⟩
      · have := delimited '.' (by simp_all)
        simp at this
      · rw [List.cons_append, List.cons.injEq] at point
        exact noPoint left (by rw [point.1])
    have exponent := readExponent_append delimited read
    split <;> simp_all

theorem readNumber_suffix (text : List Char) : (readNumber negative text).2 <:+ text := by
  have left_suffix := readDigits_suffix text
  unfold readNumber
  split
  · exact List.nil_suffix
  · exact List.nil_suffix
  · rename_i whole fraction _ _ digits
    rw [digits] at left_suffix
    have fraction_suffix := (readDigits_suffix fraction).trans
      ((List.suffix_cons '.' fraction).trans left_suffix)
    split
    · exact List.nil_suffix
    · rename_i digits
      rw [digits] at fraction_suffix
      exact (readExponent_suffix _).trans fraction_suffix
  · rename_i digits
    rw [digits] at left_suffix
    exact (readExponent_suffix _).trans left_suffix

/-! ## Integers -/

/-- The values of the digits of a number. -/
def digitValues (number : Nat) : List Nat :=
  (Nat.toDigits 10 number).map fun digit => digit.toNat - '0'.toNat

theorem digitValues_of_lt {number : Nat} (small : number < 10) : digitValues number = [number] := by
  simp [digitValues, Nat.toDigits_of_lt_base small, Nat.toNat_digitChar_sub_48_of_lt_ten small]

theorem digitValues_of_le {number : Nat} (large : 10 ≤ number) :
    digitValues number = digitValues (number / 10) ++ [number % 10] := by
  have last : number % 10 < 10 := Nat.mod_lt _ (by decide)
  simp [digitValues, Nat.toDigits_of_base_le (by decide) large,
    Nat.toNat_digitChar_sub_48_of_lt_ten last]

/-- Digits are taken in from the left as long as there is room for them. -/
theorem foldl_takeWhole_digitValues (number : Nat) (fits : number ≤ Number.largestSignificand) :
    (digitValues number).foldl Number.Accumulator.takeWhole {} = { significand := number } := by
  induction number using Nat.strongRecOn with
  | ind number ih =>
      by_cases small : number < 10
      · have room : ¬ Number.largestSignificand < number := by omega
        simp [digitValues_of_lt small, Number.Accumulator.takeWhole, room]
      · have shorter : number / 10 < number := by omega
        rw [digitValues_of_le (by omega), List.foldl_append, ih _ shorter (by omega)]
        have whole : number / 10 * 10 + number % 10 = number := Nat.div_add_mod' number 10
        simp [Number.Accumulator.takeWhole, whole, fits]

theorem eq_zero_of_leading_zero (number : Nat) {digits : List Nat}
    (leading : digitValues number = 0 :: digits) : number = 0 := by
  induction number using Nat.strongRecOn generalizing digits with
  | ind number ih =>
      by_cases small : number < 10
      · simp only [digitValues_of_lt small, List.cons.injEq] at leading
        exact leading.1
      · rw [digitValues_of_le (by omega)] at leading
        rcases front : digitValues (number / 10) with _ | ⟨digit, rest⟩
        · simp [digitValues, Nat.toDigits_ne_nil] at front
        · rw [front, List.cons_append, List.cons.injEq] at leading
          rw [leading.1] at front
          have := ih (number / 10) (by omega) front
          omega

theorem readDigits_toDigits (number : Nat) (delimited : Delimited rest) :
    readDigits (Nat.toDigits 10 number ++ rest) = (digitValues number, rest) := by
  have digits : ∀ digit ∈ Nat.toDigits 10 number, digit.isDigit :=
    fun _ digit_mem => Nat.isDigit_of_mem_toDigits (by decide) (by decide) digit_mem
  have alone : readDigits (Nat.toDigits 10 number) = (digitValues number, []) := by
    simp [readDigits, digitValues, List.takeWhile_eq_self_iff.mpr digits,
      List.dropWhile_eq_nil_iff.mpr digits]
  rw [readDigits_append delimited, alone, List.nil_append]

/-- The digits of an integer are a literal without fraction and exponent. -/
theorem readNumber_toDigits (negative : Bool) (number : Nat) (delimited : Delimited rest) :
    readNumber negative (Nat.toDigits 10 number ++ rest) =
      (.number (Number.ofLiteral? ⟨negative, digitValues number, none, none⟩), rest) := by
  have alone : readNumber negative (Nat.toDigits 10 number) =
      (.number (Number.ofLiteral? ⟨negative, digitValues number, none, none⟩), []) := by
    have digits := readDigits_toDigits number delimited_nil
    rw [List.append_nil] at digits
    unfold readNumber
    rw [digits]
    split
    · rename_i none
      simp [digitValues, Nat.toDigits_ne_nil] at none
    · rename_i first rest _ leading
      rw [Prod.mk.injEq] at leading
      rw [eq_zero_of_leading_zero number leading.1, digitValues_of_lt (by decide)] at leading
      simp at leading
    · rename_i point
      simp at point
    · rename_i written
      cases written
      rfl
  exact readNumber_append delimited alone

end Document

namespace Number

theorem ofLiteral?_nonnegative {number : Nat} (fits : number ≤ largestSignificand) :
    ofLiteral? ⟨false, Document.digitValues number, none, none⟩ = some (.integer number) := by
  simp [ofLiteral?, Document.foldl_takeWhole_digitValues number fits]

theorem ofLiteral?_negative {number : Nat} (positive : 0 < number) (fits : number ≤ Nat.pow 2 63) :
    ofLiteral? ⟨true, Document.digitValues number, none, none⟩ = some (.integer (-number)) := by
  have room : number ≤ largestSignificand := Nat.le_trans fits (by decide)
  have inRange : ¬ (number = 0 ∨ Nat.pow 2 63 < number) := by omega
  simp only [ofLiteral?, Document.foldl_takeWhole_digitValues number room]
  rw [if_neg (by decide), if_neg (by simpa using inRange)]

end Number

end Json

end SchemaCompiler
