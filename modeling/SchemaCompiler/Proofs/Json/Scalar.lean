import SchemaCompiler.Proofs.Json.Number

/-!
# Strings and numbers are read as they were written

`Json.documentAt` says which document the text of a value is to have. A value is legible if a reader
makes just this document of its text, whatever comes after the value in an array or object
(`Json.Legible`). Here this is shown of everything that is neither an array nor an object. A string
is legible because each character is written in a way that stands for it alone, up to the quote. An
integer is legible because it fits into 64 bits. Of a float it has to be known that its text leads
back to it.
-/

namespace SchemaCompiler

namespace Json

/-! ## Characters in strings -/

namespace Document

theorem hexDigit?_digitChar : ∀ digit < 16, hexDigit? (Nat.digitChar digit) = some digit := by
  decide

variable {character : Char} {rest : List Char}

/-- Control characters are the only ones written with their number, and they have a small one. -/
theorem ofEscape_control (control : character.toNat < 0x20) :
    TextUnit.ofEscape (character.toNat / 16 * 16 + character.toNat % 16) =
      .character character := by
  have noSurrogate : ¬ 0xD800 ≤ character.toNat := by omega
  have noSurrogate' : ¬ 0xDC00 ≤ character.toNat := by omega
  rw [Nat.div_add_mod']
  simp [TextUnit.ofEscape, noSurrogate, noSurrogate', Char.ofNat_toNat]

theorem readUnits_escapedChar (character : Char) (rest : List Char) :
    readUnits (escapedChar character ++ rest) =
      (.character character :: (readUnits rest).1, (readUnits rest).2) := by
  unfold escapedChar
  iterate 7
    split
    · subst_vars
      rfl
  split
  · rename_i control
    have upper := hexDigit?_digitChar (character.toNat / 16) (by omega)
    have lower := hexDigit?_digitChar (character.toNat % 16) (by omega)
    have zero : hexDigit? '0' = some 0 := by decide
    simp only [List.cons_append, List.nil_append]
    rw [readUnits]
    simp only [zero, upper, lower]
    simp [ofEscape_control control]
  · rename_i quote backslash _ _ _ _ _ control
    rw [List.singleton_append, readUnits.eq_def]
    split <;> simp_all

/-- Characters that stand for themselves are what their units resolve to. -/
theorem resolve?_map_character (characters : List Char) :
    resolve? (characters.map .character) = some characters := by
  induction characters with
  | nil => rfl
  | cons character characters ih => simp [resolve?, ih]

theorem readUnits_quoted (characters rest : List Char) :
    readUnits (characters.flatMap escapedChar ++ '"' :: rest) =
      (characters.map .character, .ok rest) := by
  induction characters with
  | nil => rfl
  | cons character characters ih =>
      rw [List.flatMap_cons, List.append_assoc, readUnits_escapedChar, ih, List.map_cons]

theorem readValue_quotedText (fuel depth : Nat) (text : String) (rest : List Char) :
    readValue (fuel + 1) depth ((quotedText text).toList ++ rest) = (.text (some text), rest) := by
  have characters : (quotedText text).toList ++ rest =
      '"' :: (text.toList.flatMap escapedChar ++ '"' :: rest) := by
    simp [quotedText]
  rw [characters, readValue]
  simp [isFiller, readText, readUnits_quoted, resolve?_map_character]

/-! ## Documents -/

theorem placed_of_lt {depth : Nat} (shallow : depth < deepest) (container : Document) :
    placed depth container = container :=
  if_pos shallow

end Document

mutual

/-- The structure of the text of a value inside `depth` open containers: what is not a finite number
is written as `null`, and too deep a container is marked. -/
def documentAt (depth : Nat) : Json → Document
  | .null => .null
  | .boolean value => .boolean value
  | .integer value => .number (some (.integer value))
  | .float value =>
    if (FloatValue.ofFloat value).isFinite then .number (some (.float value)) else .null
  | .text value => .text (some value)
  | .array items => .placed depth (.array (itemsAt (depth + 1) items))
  | .object members => .placed depth (.object (membersAt (depth + 1) members))

/-- The structure of the items of an array. -/
def itemsAt (depth : Nat) : List Json → Items
  | [] => .closed
  | item :: rest => .more (item.documentAt depth) (itemsAt depth rest)

/-- The structure of the members of an object. -/
def membersAt (depth : Nat) : List (String × Json) → Members
  | [] => .closed
  | (key, value) :: rest => .more (.text (some key)) (value.documentAt depth) (membersAt depth rest)

end

/-- Whether the numbers in a value can be read: integers fit into 64 bits, signed or unsigned, and
floats have the given property. -/
inductive Readable (faithful : Float → Prop) : Json → Prop
  | null : Readable faithful .null
  | boolean (value : Bool) : Readable faithful (.boolean value)
  | integer {value : Int} (lowest : -(Nat.pow 2 63 : Nat) ≤ value)
      (highest : value ≤ Number.largestSignificand) : Readable faithful (.integer value)
  | float {value : Float} (holds : faithful value) : Readable faithful (.float value)
  | text (value : String) : Readable faithful (.text value)
  | array {items : List Json} (each : ∀ item ∈ items, Readable faithful item) :
      Readable faithful (.array items)
  | object {members : List (String × Json)}
      (each : ∀ member ∈ members, Readable faithful member.2) : Readable faithful (.object members)

/-- Whether the text of a float leads back to it. -/
def ReadsBack (value : Float) : Prop :=
  Document.ofText (floatText value) = (.number (some (.float value)), [])

/-- A character that opens a value: it is not passed over, and does not close an array. -/
def Document.Opening (character : Char) : Prop :=
  isFiller character = false ∧ character ≠ ']'

instance : DecidablePred Document.Opening :=
  fun _ => inferInstanceAs (Decidable (_ ∧ _))

/-- The text of a value is read as its document, whatever stands after it in an array or object. -/
structure Legible (value : Json) : Prop where
  first : ∃ character rest, value.compact.toList = character :: rest ∧ Document.Opening character
  read : ∀ {fuel depth : Nat} {rest : List Char}, 2 * value.compact.length < fuel →
    Document.Delimited rest →
    Document.readValue fuel depth (value.compact.toList ++ rest) = (value.documentAt depth, rest)

/-! ## Words and strings -/

theorem legible_null : Legible .null where
  first := ⟨'n', ['u', 'l', 'l'], by rfl, by decide⟩
  read := by
    rintro (_ | fuel) depth rest enough delimited
    · omega
    · rfl

theorem legible_boolean (value : Bool) : Legible (.boolean value) := by
  cases value with
  | false =>
      refine ⟨⟨'f', ['a', 'l', 's', 'e'], by rfl, by decide⟩, ?_⟩
      rintro (_ | fuel) depth rest enough delimited
      · omega
      · rfl
  | true =>
      refine ⟨⟨'t', ['r', 'u', 'e'], by rfl, by decide⟩, ?_⟩
      rintro (_ | fuel) depth rest enough delimited
      · omega
      · rfl

theorem legible_text (value : String) : Legible (.text value) where
  first := ⟨'"', value.toList.flatMap escapedChar ++ ['"'],
    by simp [compact, scalarText, quotedText], by decide⟩
  read := by
    rintro (_ | fuel) depth rest enough delimited
    · omega
    · exact Document.readValue_quotedText fuel depth value rest

/-! ## Numbers -/

namespace Document

theorem opening_of_isNumeric {character : Char} (numeric : IsNumeric character) :
    Opening character := by
  rcases numeric with digit | rfl | rfl | rfl | rfl
  · constructor
    · by_contra filler
      simp only [isFiller, Bool.not_eq_false, Bool.or_eq_true, decide_eq_true_eq] at filler
      rcases filler with ((rfl | rfl) | rfl) | rfl <;> exact absurd digit (by decide)
    · rintro rfl
      exact absurd digit (by decide)
  all_goals decide

theorem readValue_minus (fuel depth : Nat) (text : List Char) :
    readValue (fuel + 1) depth ('-' :: text) = readNumber true text := by
  rfl

theorem readValue_digit (fuel depth : Nat) {first : Char} (text : List Char)
    (digit : first.isDigit) :
    readValue (fuel + 1) depth (first :: text) = readNumber false (first :: text) := by
  have opening := opening_of_isNumeric (.inl digit)
  rw [readValue, List.dropWhile_cons_of_neg (by simp [opening.1])]
  -- No digit is one of the marks with which other values begin.
  split <;> rename_i written <;> cases written
  iterate 7 exact absurd digit (by decide)
  rw [if_pos digit]

/-- A number starts with its sign or its first digit. -/
theorem readNumber_of_readValue {fuel depth : Nat} {text rest : List Char} {value : Option Number}
    (numeric : ∀ character ∈ text, IsNumeric character)
    (read : readValue (fuel + 1) depth text = (.number value, rest)) :
    (∃ digits, text = '-' :: digits ∧ readNumber true digits = (.number value, rest)) ∨
      ∃ first digits, text = first :: digits ∧ first.isDigit ∧
        readNumber false text = (.number value, rest) := by
  rcases text with _ | ⟨first, text⟩
  · cases read
  · rcases numeric first (by simp) with digit | rfl | rfl | rfl | rfl
    · rw [readValue_digit fuel depth text digit] at read
      exact .inr ⟨first, text, rfl, digit, read⟩
    · cases read
    · cases read
    · cases read
    · exact .inl ⟨text, rfl, read⟩

theorem readValue_toDigits (fuel depth number : Nat) :
    readValue (fuel + 1) depth (Nat.toDigits 10 number) =
      (.number (Number.ofLiteral? ⟨false, digitValues number, none, none⟩), []) := by
  have read := readNumber_toDigits false number delimited_nil
  rw [List.append_nil] at read
  rcases digits : Nat.toDigits 10 number with _ | ⟨first, rest⟩
  · exact absurd digits Nat.toDigits_ne_nil
  · have digit : first.isDigit :=
      Nat.isDigit_of_mem_toDigits (by decide) (by decide) (digits ▸ List.mem_cons_self)
    rw [readValue_digit fuel depth rest digit, ← digits, read]

end Document

theorem legible_number {value : Json} {number : Option Number}
    (numeric : ∀ character ∈ value.compact.toList, IsNumeric character)
    (alone : Document.readValue 1 0 value.compact.toList = (.number number, []))
    (document : ∀ depth, value.documentAt depth = .number number) : Legible value := by
  rcases Document.readNumber_of_readValue numeric alone with
    ⟨digits, text_eq, read⟩ | ⟨first, digits, text_eq, digit, read⟩
  · refine ⟨⟨'-', digits, text_eq, by decide⟩, ?_⟩
    rintro (_ | fuel) depth rest enough delimited
    · omega
    · rw [text_eq, List.cons_append, Document.readValue_minus,
        Document.readNumber_append delimited read, document]
  · refine ⟨⟨first, digits, text_eq, Document.opening_of_isNumeric (.inl digit)⟩, ?_⟩
    rintro (_ | fuel) depth rest enough delimited
    · omega
    · have read := Document.readNumber_append delimited read
      rw [text_eq, List.cons_append] at read ⊢
      rw [Document.readValue_digit fuel depth _ digit, read, document]

theorem legible_integer {value : Int} (lowest : -(Nat.pow 2 63 : Nat) ≤ value)
    (highest : value ≤ Number.largestSignificand) : Legible (.integer value) := by
  have written : (Json.integer value).compact.toList =
      (if value < 0 then ['-'] else []) ++ Nat.toDigits 10 value.natAbs :=
    toList_toString_integer value
  have numeric : ∀ character ∈ (Json.integer value).compact.toList, IsNumeric character := by
    rw [written, List.forall_mem_append]
    have minus : IsNumeric '-' := by decide
    refine ⟨?_, Decimal.isNumeric_of_mem_digitChars⟩
    split <;> simp [minus]
  apply legible_number numeric ?_ fun _ => rfl
  rw [written]
  by_cases negative : value < 0
  · have read := Document.readNumber_toDigits true value.natAbs Document.delimited_nil
    rw [List.append_nil, Number.ofLiteral?_negative (by omega) (by omega)] at read
    rw [if_pos negative, List.singleton_append, Document.readValue_minus, read]
    congr
    omega
  · rw [if_neg negative, List.nil_append, Document.readValue_toDigits,
      Number.ofLiteral?_nonnegative (by omega)]
    congr
    omega

theorem isFinite_of_readsBack {value : Float} (readsBack : ReadsBack value) :
    (FloatValue.ofFloat value).isFinite := by
  by_contra notFinite
  rw [← FloatValue.isSome_scientific?, Option.not_isSome_iff_eq_none] at notFinite
  have word : Document.ofText "null" = (.null, []) := by rfl
  rw [ReadsBack, floatText, notFinite, Option.getD_none, word] at readsBack
  cases readsBack

theorem isNumeric_of_mem_floatText {value : Float} (finite : (FloatValue.ofFloat value).isFinite) :
    ∀ character ∈ (floatText value).toList, IsNumeric character := by
  rw [← FloatValue.isSome_scientific?] at finite
  rcases Option.isSome_iff_exists.mp finite with ⟨text, written⟩
  rw [floatText, written, Option.getD_some]
  exact FloatValue.isNumeric_of_mem_scientific? written

/-- Nothing is left of the text of a number, since there are no blanks in it to pass over. -/
theorem Document.readValue_of_ofText {text : String} {number : Option Number}
    (numeric : ∀ character ∈ text.toList, IsNumeric character)
    (read : ofText text = (.number number, [])) :
    readValue 1 0 text.toList = (.number number, []) := by
  rcases value : readValue (2 * text.toList.length + 2) 0 text.toList with ⟨document, rest⟩
  simp only [ofText, value, Prod.mk.injEq] at read
  rcases read with ⟨rfl, noRest⟩
  have rest_eq (suffix : rest <:+ text.toList) : rest = [] := by
    rw [List.dropWhile_eq_nil_iff] at noRest
    apply List.eq_nil_iff_forall_not_mem.mpr
    intro character character_mem
    have filler := noRest character character_mem
    rw [(opening_of_isNumeric (numeric character (suffix.subset character_mem))).1] at filler
    cases filler
  rcases readNumber_of_readValue numeric value with
    ⟨digits, text_eq, read⟩ | ⟨first, digits, text_eq, digit, read⟩
  · have suffix : (readNumber true digits).2 <:+ digits := readNumber_suffix digits
    rw [read] at suffix
    rw [text_eq, readValue_minus, read,
      rest_eq (text_eq ▸ suffix.trans (List.suffix_cons '-' digits))]
  · have suffix : (readNumber false text.toList).2 <:+ text.toList := readNumber_suffix text.toList
    rw [read] at suffix
    rw [text_eq, readValue_digit 0 0 digits digit, ← text_eq, read, rest_eq suffix]

theorem legible_float {value : Float} (readsBack : ReadsBack value) : Legible (.float value) := by
  have finite := isFinite_of_readsBack readsBack
  have numeric := isNumeric_of_mem_floatText finite
  exact legible_number numeric (Document.readValue_of_ofText numeric readsBack) fun depth => by
    rw [documentAt, if_pos finite]

end Json

end SchemaCompiler
