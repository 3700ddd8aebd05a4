import SchemaCompiler.Decimal.Notation
import SchemaCompiler.Proofs.Decimal.Shortest

/-!
# Floats in plain notation

The text of a float is a sign and a numeral in positional notation, without an exponent. The numeral
stands for a decimal that is read back as the float, the shortest one (`IsPlainNotation`). What a
float is comes from Lean's own model of floats, into which the fields of its bits are translated
(`unpack_of_ofFloat`).
-/

namespace SchemaCompiler

open Float.Model (UnpackedFloat)

/-- A numeral in positional notation: the digits before the point and those after it. -/
structure Numeral where
  whole : List Char
  fraction : List Char

namespace Numeral

/-- A numeral as it is written. A whole number has no point. -/
def chars (numeral : Numeral) : List Char :=
  if numeral.fraction = [] then
    numeral.whole
  else
    numeral.whole ++ '.' :: numeral.fraction

/-- The number that a numeral stands for. -/
def value (numeral : Numeral) : ℚ :=
  Nat.ofDigitChars 10 (numeral.whole ++ numeral.fraction) 0 / 10 ^ numeral.fraction.length

/-- A numeral consists of digits and has no zero at an end that it could do without. -/
structure IsPlain (numeral : Numeral) : Prop where
  digits : ∀ digit ∈ numeral.whole ++ numeral.fraction, digit.isDigit
  whole_ne : numeral.whole ≠ []
  leading : numeral.whole.head? = some '0' → numeral.whole = ['0']
  trailing : numeral.fraction.getLast? ≠ some '0'

/-- Zero is one digit. -/
def zero : Numeral :=
  ⟨['0'], []⟩

theorem isPlain_zero : zero.IsPlain where
  digits := by simp [zero]
  whole_ne := by simp [zero]
  leading _ := rfl
  trailing := by simp [zero]

theorem value_zero : zero.value = 0 := by
  simp [value, zero, Nat.ofDigitChars_cons]

end Numeral

/-- What is written before the digits of a number. -/
def minus : UnpackedFloat.Sign → List Char
  | .negative => ['-']
  | .positive => []

/-- The plain notation of a float that is a number. Its numeral stands for the shortest decimal that
is read back as the float. -/
inductive IsPlainNotation : UnpackedFloat → List Char → Prop
  | zero {sign : UnpackedFloat.Sign} {numeral : Numeral} (plain : numeral.IsPlain)
      (value_eq : numeral.value = 0) :
      IsPlainNotation (.zero sign) (minus sign ++ numeral.chars)
  | finite {sign : UnpackedFloat.Sign} {mantissa : ℕ} {scale : ℤ} {mantissa_pos : 0 < mantissa}
      {numeral : Numeral} {decimal : Decimal} (plain : numeral.IsPlain)
      (value_eq : numeral.value = decimal.value)
      (shortest : Decimal.IsShortest .larger mantissa scale decimal) :
      IsPlainNotation (.finite sign mantissa scale mantissa_pos) (minus sign ++ numeral.chars)

/-! ## Decimals as numerals -/

namespace Decimal

variable {digits places : ℕ}

theorem isDigit_of_mem_digitChars : ∀ digit ∈ digitChars digits, digit.isDigit :=
  fun _ digit_mem => Nat.isDigit_of_mem_toDigits (by decide) (by decide) digit_mem

theorem isDigit_of_mem_replicate {count : ℕ} :
    ∀ digit ∈ List.replicate count '0', digit.isDigit := by
  intro digit digit_mem
  rw [List.eq_of_mem_replicate digit_mem]
  decide

theorem head?_digitChars_ne_zero (digits_pos : 0 < digits) :
    (digitChars digits).head? ≠ some '0' := by
  induction digits using Nat.strongRecOn with
  | ind digits ih =>
      rcases Nat.lt_or_ge digits 10 with single | several
      · rw [digitChars, Nat.toDigits_of_lt_base single]
        simpa using digits_pos.ne'
      · rw [digitChars, Nat.toDigits_of_base_le (by decide) several,
          List.head?_append_of_ne_nil _ Nat.toDigits_ne_nil]
        exact ih (digits / 10) (by omega) (by omega)

theorem getLast?_digitChars_ne_zero (last_ne : digits % 10 ≠ 0) :
    (digitChars digits).getLast? ≠ some '0' := by
  rcases Nat.lt_or_ge digits 10 with single | several
  · rw [digitChars, Nat.toDigits_of_lt_base single]
    rw [Nat.mod_eq_of_lt single] at last_ne
    simpa using last_ne
  · rw [digitChars, Nat.toDigits_of_base_le (by decide) several]
    simpa using last_ne

theorem ofDigitChars_digitChars (digits : ℕ) :
    Nat.ofDigitChars 10 (digitChars digits) 0 = digits :=
  Nat.ofDigitChars_ten_toDigits

theorem value_neg_natCast (digits places : ℕ) :
    value ⟨digits, -places⟩ = digits / 10 ^ places := by
  rw [value, zpow_neg, zpow_natCast, div_eq_mul_inv]

/-- A whole number is written without a point. -/
theorem exists_numeral_whole (digits_pos : 0 < digits) (zeros : ℕ) :
    ∃ numeral : Numeral, numeral.IsPlain ∧ numeral.value = value ⟨digits, zeros⟩ ∧
      numeral.chars = positional ⟨digits, zeros⟩ := by
  refine ⟨⟨digitChars digits ++ List.replicate zeros '0', []⟩, ⟨?_, ?_, ?_, ?_⟩, ?_, ?_⟩
  · rw [List.append_nil]
    exact List.forall_mem_append.mpr ⟨isDigit_of_mem_digitChars, isDigit_of_mem_replicate⟩
  · simp [digitChars, Nat.toDigits_ne_nil]
  · intro leading
    refine absurd ?_ (head?_digitChars_ne_zero digits_pos)
    exact (List.head?_append_of_ne_nil _ Nat.toDigits_ne_nil).symm.trans leading
  · simp
  · simp [Numeral.value, value, Nat.ofDigitChars_append, ofDigitChars_digitChars,
      Nat.ofDigitChars_replicate_zero, mul_comm]
  · simp [Numeral.chars, positional]

/-- The point stands between two of the digits. -/
theorem exists_numeral_pointed (last_ne : digits % 10 ≠ 0) (places_pos : 0 < places)
    (places_lt : places < (digitChars digits).length) :
    ∃ numeral : Numeral, numeral.IsPlain ∧ numeral.value = value ⟨digits, -places⟩ ∧
      numeral.chars = positional ⟨digits, -places⟩ := by
  have digits_pos : 0 < digits := Nat.pos_of_ne_zero fun zero => last_ne (by simp [zero])
  have whole_pos : 0 < (digitChars digits).length - places := by omega
  have fraction_ne : (digitChars digits).drop ((digitChars digits).length - places) ≠ [] := by
    rw [Ne, List.drop_eq_nil_iff]
    omega
  refine ⟨⟨(digitChars digits).take ((digitChars digits).length - places),
    (digitChars digits).drop ((digitChars digits).length - places)⟩, ⟨?_, ?_, ?_, ?_⟩, ?_, ?_⟩
  · rw [List.take_append_drop]
    exact isDigit_of_mem_digitChars
  · rw [Ne, List.take_eq_nil_iff, not_or]
    exact ⟨whole_pos.ne', Nat.toDigits_ne_nil⟩
  · intro leading
    refine absurd ?_ (head?_digitChars_ne_zero digits_pos)
    rw [List.head?_take, if_neg whole_pos.ne'] at leading
    exact leading
  · rw [List.getLast?_drop, if_neg (by omega)]
    exact getLast?_digitChars_ne_zero last_ne
  · rw [Numeral.value, List.take_append_drop, ofDigitChars_digitChars, value_neg_natCast,
      List.length_drop, Nat.sub_sub_self places_lt.le]
  · rw [Numeral.chars, if_neg fraction_ne, positional]
    simp [places_pos.ne', places_lt]

/-- Zeros after the point come before the digits. -/
theorem exists_numeral_small (last_ne : digits % 10 ≠ 0)
    (le_places : (digitChars digits).length ≤ places) :
    ∃ numeral : Numeral, numeral.IsPlain ∧ numeral.value = value ⟨digits, -places⟩ ∧
      numeral.chars = positional ⟨digits, -places⟩ := by
  have written_ne : digitChars digits ≠ [] := Nat.toDigits_ne_nil
  have places_pos : 0 < places := (List.length_pos_of_ne_nil written_ne).trans_le le_places
  refine ⟨⟨['0'], List.replicate (places - (digitChars digits).length) '0' ++ digitChars digits⟩,
    ⟨?_, ?_, ?_, ?_⟩, ?_, ?_⟩
  · rw [List.singleton_append, List.forall_mem_cons]
    refine ⟨by decide, List.forall_mem_append.mpr ?_⟩
    exact ⟨isDigit_of_mem_replicate, isDigit_of_mem_digitChars⟩
  · simp
  · exact fun _ => rfl
  · rw [List.getLast?_append_of_ne_nil _ written_ne]
    exact getLast?_digitChars_ne_zero last_ne
  · rw [Numeral.value, value_neg_natCast, List.singleton_append, Nat.ofDigitChars_cons,
      Nat.ofDigitChars_append, Nat.ofDigitChars_replicate_zero]
    simp [ofDigitChars_digitChars, Nat.sub_add_cancel le_places]
  · simp [Numeral.chars, positional, written_ne, places_pos.ne', le_places.not_gt]

/-- A decimal in positional notation is a numeral of the same value. -/
theorem exists_numeral {decimal : Decimal} (last_ne : decimal.digits % 10 ≠ 0) :
    ∃ numeral : Numeral, numeral.IsPlain ∧ numeral.value = decimal.value ∧
      numeral.chars = decimal.positional := by
  obtain ⟨digits, exponent⟩ := decimal
  have digits_pos : 0 < digits := Nat.pos_of_ne_zero fun zero => last_ne (by simp [zero])
  rcases le_or_gt 0 exponent with whole | pointed
  · obtain ⟨zeros, rfl⟩ := Int.eq_ofNat_of_zero_le whole
    exact exists_numeral_whole digits_pos zeros
  · obtain ⟨places, rfl⟩ := Int.exists_eq_neg_ofNat pointed.le
    rcases Nat.lt_or_ge places (digitChars digits).length with places_lt | le_places
    · exact exists_numeral_pointed last_ne (by omega) places_lt
    · exact exists_numeral_small last_ne le_places

theorem positional_shortest_zero (tie : Tie) (scale : ℤ) :
    (shortest tie 0 scale).positional = Numeral.zero.chars := by
  rw [shortest, if_pos rfl]
  decide

end Decimal

/-! ## The fields of a float -/

section Fields

open Float.Model UnpackedFloat

variable (bits : BitVec Format.binary64.numBits)

theorem toNat_unpackMantissa : (unpackMantissa bits).toNat = bits.toNat % 2 ^ 52 := by
  simp [unpackMantissa]

theorem toNat_unpackExponent : (unpackExponent bits).toNat = bits.toNat / 2 ^ 52 % 2 ^ 11 := by
  simp [unpackExponent, Nat.shiftRight_eq_div_pow]

theorem toNat_unpackSign : (unpackSign bits).toNat = bits.toNat / 2 ^ 63 := by
  have bits_lt : bits.toNat < 2 ^ 64 := bits.isLt
  have sign_lt : bits.toNat / 2 ^ 63 < 2 := by omega
  delta unpackSign
  rw [BitVec.toNat_cast, BitVec.extractLsb_toNat, Nat.shiftRight_eq_div_pow]
  exact Nat.mod_eq_of_lt sign_lt

/-- The sign of a number. -/
def signOf (negative : Bool) : Sign :=
  if negative then .negative else .positive

theorem minus_signOf (negative : Bool) : minus (signOf negative) = FloatValue.sign negative := by
  cases negative <;> rfl

theorem ofBitVec_unpackSign :
    Sign.ofBitVec (unpackSign bits) = signOf (bits.toNat / 2 ^ 63 == 1) := by
  rw [← toNat_unpackSign]
  generalize unpackSign bits = sign
  rcases BitVec.eq_zero_or_eq_one sign with rfl | rfl <;> rfl

theorem toNat_one_append (fraction : BitVec 52) :
    (1#1 ++ fraction).toNat = 2 ^ 52 + fraction.toNat := by
  rw [BitVec.toNat_append, ← Nat.shiftLeft_add_eq_or_of_lt fraction.isLt]
  rfl

variable {bits}

theorem unpack_zero (exponent_eq : unpackExponent bits = 0#11)
    (fraction_eq : unpackMantissa bits = 0#52) :
    UnpackedFloat.unpack Format.binary64 bits = .zero (Sign.ofBitVec (unpackSign bits)) := by
  delta UnpackedFloat.unpack
  dsimp only
  rw [if_neg (by rw [exponent_eq]; decide), if_pos exponent_eq, dif_pos fraction_eq]

theorem unpack_subnormal (exponent_eq : unpackExponent bits = 0#11)
    (fraction_pos : 0 < (unpackMantissa bits).toNat) :
    UnpackedFloat.unpack Format.binary64 bits =
      .finite (Sign.ofBitVec (unpackSign bits)) (unpackMantissa bits).toNat (-1074)
        fraction_pos := by
  have fraction_ne : unpackMantissa bits ≠ 0#52 := fun zero => by simp [zero] at fraction_pos
  delta UnpackedFloat.unpack
  dsimp only
  rw [if_neg (by rw [exponent_eq]; decide), if_pos exponent_eq, dif_neg fraction_ne]
  congr 1
  rw [exponent_eq]
  rfl

theorem unpack_normal (exponent_ne_ones : unpackExponent bits ≠ -1#11)
    (exponent_ne_zero : unpackExponent bits ≠ 0#11)
    (mantissa_pos : 0 < 2 ^ 52 + (unpackMantissa bits).toNat) :
    UnpackedFloat.unpack Format.binary64 bits =
      .finite (Sign.ofBitVec (unpackSign bits)) (2 ^ 52 + (unpackMantissa bits).toNat)
        ((unpackExponent bits).toNat - 1075) mantissa_pos := by
  delta UnpackedFloat.unpack
  dsimp only
  rw [if_neg exponent_ne_ones, if_neg exponent_ne_zero]
  congr 1
  exact toNat_one_append _

/-- The sign, the mantissa and the scale of a number are those of Lean's own model of floats. -/
theorem unpack_of_ofFloat {number : Float} {negative : Bool} {mantissa : ℕ} {scale : ℤ}
    (value : FloatValue.ofFloat number = .finite negative mantissa scale) :
    mantissa = 0 ∧ number.toModel.unpack = .zero (signOf negative) ∨
      ∃ normalized : IsNormalized mantissa scale, number.toModel.unpack =
        .finite (signOf negative) mantissa scale normalized.mantissa_pos := by
  obtain ⟨bits, bits_eq⟩ :
      ∃ bits : BitVec Format.binary64.numBits, number.toModel.toBits.toBitVec = bits := ⟨_, rfl⟩
  have fraction_lt : (unpackMantissa bits).toNat < 2 ^ 52 := (unpackMantissa bits).isLt
  have exponent_lt : (unpackExponent bits).toNat < 2 ^ 11 := (unpackExponent bits).isLt
  have toNat_eq : number.toBits.toNat = bits.toNat := congrArg BitVec.toNat bits_eq
  simp only [FloatValue.ofFloat, Nat.pow_eq, toNat_eq, ← toNat_unpackMantissa,
    ← toNat_unpackExponent] at value
  rw [Float.Model.unpack, bits_eq]
  split at value
  · split at value <;> cases value
  · rename_i not_ones
    split at value
    · rename_i subnormal
      have exponent_eq : unpackExponent bits = 0#11 := BitVec.eq_of_toNat_eq subnormal
      obtain ⟨rfl, rfl, rfl⟩ := FloatValue.finite.inj value
      rw [← ofBitVec_unpackSign]
      rcases Nat.eq_zero_or_pos (unpackMantissa bits).toNat with zero | pos
      · exact .inl ⟨zero, unpack_zero exponent_eq (BitVec.eq_of_toNat_eq zero)⟩
      · exact .inr ⟨⟨pos, by omega, le_rfl, by omega, .inr rfl⟩, unpack_subnormal exponent_eq pos⟩
    · rename_i normal
      obtain ⟨rfl, rfl, rfl⟩ := FloatValue.finite.inj value
      rw [← ofBitVec_unpackSign]
      refine .inr ⟨⟨by omega, by omega, by omega, by omega, .inl (by omega)⟩, unpack_normal ?_ ?_ _⟩
      · exact fun ones => not_ones (by rw [ones]; rfl)
      · exact fun zero => normal (by rw [zero]; rfl)

end Fields

/-- The text of a float is its plain notation. -/
theorem isPlainNotation_plainFloat {number : Float}
    (finite : (FloatValue.ofFloat number).isFinite) :
    IsPlainNotation number.toModel.unpack (plainFloat number).toList := by
  rw [plainFloat]
  cases value : FloatValue.ofFloat number with
  | notANumber => simp [value, FloatValue.isFinite] at finite
  | infinite negative => simp [value, FloatValue.isFinite] at finite
  | finite negative mantissa scale =>
      rw [FloatValue.plain, String.toList_ofList, ← minus_signOf]
      rcases unpack_of_ofFloat value with ⟨rfl, unpack_eq⟩ | ⟨normalized, unpack_eq⟩
      · rw [unpack_eq, Decimal.positional_shortest_zero]
        exact .zero Numeral.isPlain_zero Numeral.value_zero
      · have shortest := Decimal.isShortest_shortest normalized .larger
        obtain ⟨numeral, plain, value_eq, chars_eq⟩ := Decimal.exists_numeral shortest.last_ne
        rw [unpack_eq, ← chars_eq]
        exact .finite plain value_eq shortest

end SchemaCompiler
