import SchemaCompiler.Decimal.Notation

/-!
# The characters of written numbers

Both notations spell a float with a sign, digits and a point; the scientific one can add an
exponent. An integer is a sign and its digits. So a reader of numbers can tell where one ends, as
long as no digit, point, sign or `e` comes next, and no number holds a character that means
something to a reader of SQL or of lists.
-/

namespace SchemaCompiler

/-- A character that occurs in numbers. -/
def IsNumeric (character : Char) : Prop :=
  character.isDigit ∨ character = '.' ∨ character = 'e' ∨ character = '+' ∨ character = '-'

instance : DecidablePred IsNumeric :=
  fun _ => inferInstanceAs (Decidable (_ ∨ _))

namespace Decimal

theorem isNumeric_of_mem_digitChars {digits : Nat} :
    ∀ character ∈ digitChars digits, IsNumeric character :=
  fun _ digit => .inl (Nat.isDigit_of_mem_toDigits (by decide) (by decide) digit)

theorem isNumeric_of_mem_replicate {count : Nat} :
    ∀ zero ∈ List.replicate count '0', IsNumeric zero := by
  intro zero zero_mem
  rw [List.eq_of_mem_replicate zero_mem]
  decide

theorem isNumeric_of_mem_positional {decimal : Decimal} :
    ∀ character ∈ decimal.positional, IsNumeric character := by
  have digits : ∀ character ∈ digitChars decimal.digits, IsNumeric character :=
    isNumeric_of_mem_digitChars
  simp only [positional]
  split
  · exact List.forall_mem_append.mpr ⟨digits, isNumeric_of_mem_replicate⟩
  · split
    · rw [List.forall_mem_append, List.forall_mem_cons]
      refine ⟨?_, by decide, ?_⟩
      · exact fun character whole => digits _ (List.mem_of_mem_take whole)
      · exact fun character fraction => digits _ (List.mem_of_mem_drop fraction)
    · simp only [List.forall_mem_cons, List.forall_mem_append]
      exact ⟨by decide, by decide, isNumeric_of_mem_replicate, digits⟩

theorem isNumeric_of_mem_signedChars {number : Int} :
    ∀ character ∈ signedChars number, IsNumeric character := by
  rw [signedChars, List.forall_mem_cons]
  refine ⟨?_, isNumeric_of_mem_digitChars⟩
  split <;> decide

theorem isNumeric_of_mem_scientific {decimal : Decimal} :
    ∀ character ∈ decimal.scientific, IsNumeric character := by
  have digits : ∀ character ∈ digitChars decimal.digits, IsNumeric character :=
    isNumeric_of_mem_digitChars
  have zero : IsNumeric '0' := by decide
  have point : IsNumeric '.' := by decide
  have power : ∀ {number : Int}, ∀ character ∈ 'e' :: signedChars number, IsNumeric character :=
    List.forall_mem_cons.mpr ⟨by decide, isNumeric_of_mem_signedChars⟩
  simp only [scientific]
  split
  · simp [zero, point]
  · split
    · rw [List.forall_mem_append]
      exact ⟨isNumeric_of_mem_positional, by simp [zero, point]⟩
    · split
      · exact isNumeric_of_mem_positional
      · split
        · exact power
        · rename_i digit written
          rw [written] at digits
          exact List.forall_mem_cons.mpr ⟨digits digit (by simp), power⟩
        · rename_i digit rest _ written
          rw [written, List.forall_mem_cons] at digits
          rw [List.forall_mem_append, List.forall_mem_cons, List.forall_mem_cons]
          exact ⟨⟨digits.1, point, digits.2⟩, power⟩

end Decimal

namespace FloatValue

theorem isNumeric_of_mem_sign {negative : Bool} :
    ∀ character ∈ sign negative, IsNumeric character := by
  have minus : IsNumeric '-' := by decide
  cases negative <;> simp [sign, minus]

theorem isSome_scientific? (value : FloatValue) : value.scientific?.isSome = value.isFinite := by
  cases value <;> rfl

theorem isNumeric_of_mem_scientific? {value : FloatValue} {text : String}
    (written : value.scientific? = some text) : ∀ character ∈ text.toList, IsNumeric character := by
  cases value with
  | notANumber => cases written
  | infinite negative => cases written
  | finite negative mantissa scale =>
      cases written
      rw [String.toList_ofList]
      exact List.forall_mem_append.mpr
        ⟨isNumeric_of_mem_sign, Decimal.isNumeric_of_mem_scientific⟩

end FloatValue

theorem toList_toString_integer (number : Int) :
    (toString number).toList =
      (if number < 0 then ['-'] else []) ++ Nat.toDigits 10 number.natAbs := by
  cases number <;> simp [Int.toString_eq_repr, Int.repr]

end SchemaCompiler
