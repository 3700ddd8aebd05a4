import SchemaCompiler.Dialect.Sqlite
import SchemaCompiler.Proofs.Content.Entry
import SchemaCompiler.Proofs.Decimal
import SchemaCompiler.Proofs.Decimal.Plain
import SchemaCompiler.Proofs.SqlText

/-!
# Values stay in their places

Whatever a row stores, its statement is read as it was meant. Between the parentheses of its values
a reader of SQL finds one item for each entry, in order: a text comes back as one literal, a float
as a numeral that is read back as the float, another value as its own characters, and what could not
be stored as one comment. So no text can end its literal, and no message its comment, and go on as
SQL.

This is shown entry by entry. Each is read as one item whatever follows it (`SqlText.Reads`): quoted
texts and comments because of the way in which they are escaped, numbers and words because none of
their characters means anything to the reader.
-/

namespace SchemaCompiler

open SqlText

/-! ## Numbers -/

namespace Decimal

theorem positional_ne_nil (decimal : Decimal) : decimal.positional ≠ [] := by
  simp only [positional]
  split
  · simp [digitChars, Nat.toDigits_ne_nil]
  · split <;> simp

end Decimal

namespace SqlText

theorem isPlain_of_isNumeric {character : Char} (numeric : IsNumeric character) :
    IsPlain character := by
  rcases numeric with digit | rfl | rfl | rfl | rfl
  · exact isPlain_of_isDigit digit
  all_goals decide

theorem reads_integer (number : Int) :
    Reads (toString number).toList ((toString number).toList.map .bare) := by
  rw [toList_toString_integer]
  apply reads_plain
  · simp [Nat.toDigits_ne_nil]
  · intro character character_mem
    rcases List.mem_append.mp character_mem with sign | digit
    · obtain ⟨_, rfl⟩ : number < 0 ∧ character = '-' := by simpa using sign
      decide
    · exact isPlain_of_mem_toDigits digit

theorem reads_plainFloat {number : Float} (finite : (FloatValue.ofFloat number).isFinite) :
    Reads (plainFloat number).toList ((plainFloat number).toList.map .bare) := by
  rw [plainFloat]
  cases value : FloatValue.ofFloat number with
  | notANumber => simp [value, FloatValue.isFinite] at finite
  | infinite negative => simp [value, FloatValue.isFinite] at finite
  | finite negative mantissa scale =>
      rw [FloatValue.plain, String.toList_ofList]
      apply reads_plain
      · simp [Decimal.positional_ne_nil]
      · intro character character_mem
        apply isPlain_of_isNumeric
        rcases List.mem_append.mp character_mem with sign | digit
        · exact FloatValue.isNumeric_of_mem_sign character sign
        · exact Decimal.isNumeric_of_mem_positional character digit

end SqlText

/-! ## Values and entries -/

namespace Value

/-- A value that is data and no SQL, and a number if it is a float. -/
def IsData : Value → Prop
  | .sql _ => False
  | .float number => (FloatValue.ofFloat number).isFinite
  | _ => True

/-- What a reader finds in the place of a value. -/
inductive ReadAs : Value → List Token → Prop
  | text (content : String) :
      ReadAs (.text content) [.literal (content.toList.filter (· ≠ '\x00'))]
  | identity (key : String) :
      ReadAs (.identity key) [.literal (key.toList.filter (· ≠ '\x00'))]
  | integer (number : Int) : ReadAs (.integer number) ((toString number).toList.map .bare)
  | enumeration (code : Int) : ReadAs (.enumeration code) ((toString code).toList.map .bare)
  | float {number : Float} {text : List Char}
      (written : IsPlainNotation number.toModel.unpack text) :
      ReadAs (.float number) (text.map .bare)
  | true : ReadAs (.boolean true) ("true".toList.map .bare)
  | false : ReadAs (.boolean false) ("false".toList.map .bare)
  | null : ReadAs .null ("NULL".toList.map .bare)

theorem IsData.exists_reads {value : Value} (data : value.IsData) :
    ∃ item, value.ReadAs item ∧ Reads value.expression.toList item := by
  cases value with
  | text content => exact ⟨_, .text content, reads_quoted content⟩
  | identity key => exact ⟨_, .identity key, reads_quoted key⟩
  | integer number => exact ⟨_, .integer number, reads_integer number⟩
  | enumeration code => exact ⟨_, .enumeration code, reads_integer code⟩
  | float number => exact ⟨_, .float (isPlainNotation_plainFloat data), reads_plainFloat data⟩
  | boolean truth =>
      cases truth with
      | false =>
          refine ⟨_, .false, reads_plain ?_ ?_⟩
          · simp [expression]
          · simp [expression, IsPlain]
      | true =>
          refine ⟨_, .true, reads_plain ?_ ?_⟩
          · simp [expression]
          · simp [expression, IsPlain]
  | null =>
      refine ⟨_, .null, reads_plain ?_ ?_⟩
      · simp [expression]
      · simp [expression, IsPlain]
  | sql fragment => exact data.elim

end Value

namespace Entry

/-- What a reader finds in the place of an entry. -/
inductive ReadAs : Entry → List Token → Prop
  | stored {value : Value} {item : List Token} (read : value.ReadAs item) :
      ReadAs (.stored value) item
  | refused (diagnostic : Diagnostic) :
      ReadAs (.refused diagnostic) [.comment (commentText diagnostic)]

theorem exists_reads (entry : Entry) (data : ∀ value, entry = .stored value → value.IsData) :
    ∃ item, entry.ReadAs item ∧ Reads entry.expression.toList item := by
  cases entry with
  | stored value =>
      obtain ⟨item, read, reads⟩ := (data value rfl).exists_reads
      exact ⟨item, .stored read, reads⟩
  | refused diagnostic => exact ⟨_, .refused diagnostic, reads_asComment diagnostic⟩

/-- A list of entries is read entry by entry. -/
theorem exists_items (entries : List Entry)
    (data : ∀ value, .stored value ∈ entries → value.IsData) :
    ∃ items, items? (", ".intercalate (entries.map expression)) = some items ∧
      List.Forall₂ ReadAs entries items := by
  have each : ∃ items, List.Forall₂
      (fun entry item => entry.ReadAs item ∧ Reads entry.expression.toList item) entries items := by
    induction entries with
    | nil => exact ⟨[], .nil⟩
    | cons entry entries ih =>
        obtain ⟨item, read⟩ := exists_reads entry fun value stored =>
          data value (stored ▸ List.mem_cons_self)
        obtain ⟨items, reads⟩ := ih fun value value_mem =>
          data value (List.mem_cons_of_mem entry value_mem)
        exact ⟨item :: items, .cons read reads⟩
  obtain ⟨items, each⟩ := each
  refine ⟨items, ?_, each.imp fun _ _ both => both.1⟩
  apply items?_intercalate
  exact List.forall₂_map_left_iff.mpr (each.imp fun _ _ both => both.2)

end Entry

namespace Scope

variable {scope : Scope} {table : Table} {row : ContentRow}

theorem isData_of_mem_insertEntries {value : Value}
    (rowData : ∀ given ∈ row.values, given.value.IsData)
    (supplierData : ∀ column ∈ table.columns, (∀ given ∈ row.values, given.name ≠ column.name) →
      ∀ supplier ∈ column.supplier, supplier.IsData)
    (value_mem : .stored value ∈ (scope.insertEntries table row).map (·.2)) : value.IsData := by
  obtain ⟨entry, entry_mem, entry_eq⟩ := List.mem_map.mp value_mem
  rcases List.mem_append.mp entry_mem with inserted | supplied
  · obtain ⟨given, given_mem, rfl⟩ := List.mem_map.mp inserted
    cases found : table.column? given.name with
    | none => simp [insertedEntry, found] at entry_eq
    | some column =>
        have stored : given.entry (table.name ++ "." ++ given.name) = .stored value := by
          simpa [insertedEntry, found] using entry_eq
        rw [given.eq_of_entry_eq_stored stored]
        exact rowData given given_mem
  · obtain ⟨column, column_mem, unmentioned, supplier, supplier_eq, stored⟩ :=
      exists_eq_stored supplied
    obtain rfl : supplier = value := by simpa [stored] using entry_eq
    exact supplierData column column_mem unmentioned supplier supplier_eq

theorem isData_of_mem_callEntries {value : Value}
    (rowData : ∀ given ∈ row.values, given.value.IsData)
    (value_mem : .stored value ∈ callEntries row) : value.IsData := by
  obtain ⟨given, given_mem, stored⟩ := List.mem_map.mp value_mem
  rw [given.eq_of_entry_eq_stored stored]
  exact rowData given given_mem

/-- No value escapes its place. If all values are data, a reader finds exactly one item for each
entry in the list of values of an INSERT, in the order of the names of the columns, and likewise in
a CALL. -/
theorem values_stay_in_place (scope : Scope) (row : ContentRow)
    (rowData : ∀ given ∈ row.values, given.value.IsData) :
    (∀ table : Table,
      (∀ column ∈ table.columns, (∀ given ∈ row.values, given.name ≠ column.name) →
        ∀ supplier ∈ column.supplier, supplier.IsData) →
      let entries := scope.insertEntries table row
      ∃ values items,
        (scope.insertStatement table row).value =
            scope.insertText table (entries.map (·.1)) values ∧
          items? values = some items ∧
          List.Forall₂ Entry.ReadAs (entries.map (·.2)) items) ∧
      ∃ values items,
        (scope.callStatement row).value = scope.callText row values ∧
          items? values = some items ∧
          List.Forall₂ Entry.ReadAs (callEntries row) items := by
  refine ⟨?_, ?_⟩
  · intro table supplierData entries
    obtain ⟨items, read, readAs⟩ := Entry.exists_items (entries.map (·.2))
      fun _ value_mem => isData_of_mem_insertEntries rowData supplierData value_mem
    refine ⟨_, items, scope.value_insertStatement table row, ?_, readAs⟩
    rw [List.map_map] at read
    exact read
  · obtain ⟨items, read, readAs⟩ := Entry.exists_items (callEntries row)
      fun _ value_mem => isData_of_mem_callEntries rowData value_mem
    exact ⟨_, items, scope.value_callStatement row, read, readAs⟩

theorem insertText_inj {names : List String} {values others : String} :
    scope.insertText table names values = scope.insertText table names others ↔
      values = others := by
  unfold insertText
  rw [String.append_left_inj, String.append_right_inj]

/-- A row in which everything is tried: texts with quotes, commas, marks of comments and NUL, a
message that would end its comment, a column that is not there and a supplier. -/
theorem values_stay_in_place_adversarial :
    let table : Table := ⟨⟨"Author", [
      ⟨"Name", .text 20, false, false, false, false, none, false, []⟩,
      ⟨"Age", .integer, true, false, false, false, none, false, []⟩,
      ⟨"Score", .integer, true, false, false, false, none, false, []⟩,
      ⟨"Note", .text 20, true, false, false, false, some (.text "it's, /* free"), false, []⟩]⟩,
      false, []⟩
    let row : ContentRow := ⟨"Author", [
      .valid "Name" (.text "x', 0); DROP TABLE author; --\x00"),
      .invalid "Age" "not */ a, 'number",
      .valid "Score" (.float 2.5),
      .valid "Unknown" (.integer (-3))], none⟩
    let scope := Dialect.scope Dialect.sqlite ⟨"library", "public", [], [table], [], [], [], [], []⟩
    let entries := scope.insertEntries table row
    let values := "'x'', 0); DROP TABLE author; --', /* [RDBMS_0903] not * / a, 'number */, 2.5, "
      ++ "/* [RDBMS_0902] Column UNKNOWN not found in table AUTHOR */, 'it''s, /* free'"
    let items := [
      [.literal "x', 0); DROP TABLE author; --".toList],
      [.comment " [RDBMS_0903] not * / a, 'number ".toList],
      [.bare '2', .bare '.', .bare '5'],
      [.comment " [RDBMS_0902] Column UNKNOWN not found in table AUTHOR ".toList],
      [.literal "it's, /* free".toList]]
    (∀ given ∈ row.values, given.value.IsData) ∧
      (∀ column ∈ table.columns, (∀ given ∈ row.values, given.name ≠ column.name) →
        ∀ supplier ∈ column.supplier, supplier.IsData) ∧
      entries.map (·.1) = ["NAME", "AGE", "SCORE", "UNKNOWN", "NOTE"] ∧
      (scope.insertStatement table row).value =
          scope.insertText table (entries.map (·.1)) values ∧
        items? values = some items ∧
        List.Forall₂ Entry.ReadAs (entries.map (·.2)) items := by
  intro table row scope entries values items
  have rowData : ∀ given ∈ row.values, given.value.IsData := by
    have finite : (FloatValue.ofFloat 2.5).isFinite := by decide +kernel
    simpa [row, Value.IsData, AttributeValue.valid, AttributeValue.invalid] using finite
  have supplierData : ∀ column ∈ table.columns, (∀ given ∈ row.values, given.name ≠ column.name) →
      ∀ supplier ∈ column.supplier, supplier.IsData := by
    simp [table, Value.IsData]
  have text_eq : (scope.insertStatement table row).value =
      scope.insertText table (entries.map (·.1)) values := by
    decide +kernel
  have items_eq : items? values = some items := by decide +kernel
  obtain ⟨found, read, found_eq, read_eq, readAs⟩ :=
    (values_stay_in_place scope row rowData).1 table supplierData
  obtain rfl : found = values := insertText_inj.mp (found_eq.symm.trans text_eq)
  obtain rfl : read = items := Option.some.inj (read_eq.symm.trans items_eq)
  exact ⟨rowData, supplierData, by decide +kernel, text_eq, items_eq, readAs⟩

end Scope

end SchemaCompiler
