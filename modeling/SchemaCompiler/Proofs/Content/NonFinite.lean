import SchemaCompiler.Dialect.Postgres
import SchemaCompiler.Proofs.Content.Supplier
import SchemaCompiler.Proofs.Definition.ReferenceType
import SchemaCompiler.Proofs.SqlText

/-!
# Floats that are no finite numbers

SQL has no literal for an infinity or for what is not a number. A value is therefore looked at
before it is written, and such a float becomes a comment, with one diagnostic in it. That holds for
the values that a row gives, in an INSERT and in a CALL.

A supplier is written without being looked at. Where it fills a column of an INSERT, and where it is
the default of a foreign key, such a float comes out as the word by which it is displayed, and
nothing is recorded. An engine takes that word for the name of a column.
-/

namespace SchemaCompiler

open SqlText

/-! ## Words -/

namespace FloatValue

/-- The words for floats that are no finite numbers. -/
def nonFiniteWords : List String :=
  ["NaN", "inf", "-inf"]

theorem plain_mem_nonFiniteWords {value : FloatValue} (nonFinite : ¬value.isFinite) :
    value.plain ∈ nonFiniteWords := by
  cases value with
  | notANumber => decide
  | infinite negative => cases negative <;> decide
  | finite => exact absurd rfl nonFinite

end FloatValue

namespace SqlText

/-- A text is one of the words for floats that are no finite numbers, and a reader of SQL takes it
for a bare word. -/
def IsNonFiniteWord (text : String) : Prop :=
  text ∈ FloatValue.nonFiniteWords ∧ Reads text.toList (text.toList.map .bare)

theorem isNonFiniteWord_of_mem {text : String} (word : text ∈ FloatValue.nonFiniteWords) :
    IsNonFiniteWord text := by
  have plain : ∀ word ∈ FloatValue.nonFiniteWords,
      word.toList ≠ [] ∧ ∀ character ∈ word.toList, IsPlain character := by
    simp [FloatValue.nonFiniteWords, IsPlain]
  exact ⟨word, reads_plain (plain text word).1 (plain text word).2⟩

end SqlText

/-! ## Values -/

namespace Value

/-- A float that is no finite number. -/
def IsNonFinite : Value → Prop
  | .float number => ¬(FloatValue.ofFloat number).isFinite
  | _ => False

theorem IsNonFinite.exists_float {value : Value} (nonFinite : value.IsNonFinite) :
    ∃ number, value = .float number ∧ ¬(FloatValue.ofFloat number).isFinite := by
  cases value with
  | float number => exact ⟨number, rfl, nonFinite⟩
  | text | integer | boolean | null | identity | enumeration | sql => exact nonFinite.elim

theorem IsNonFinite.isNonFiniteWord {value : Value} (nonFinite : value.IsNonFinite) :
    IsNonFiniteWord value.expression := by
  rcases nonFinite.exists_float with ⟨number, rfl, nonFinite⟩
  exact isNonFiniteWord_of_mem (FloatValue.plain_mem_nonFiniteWords nonFinite)

end Value

/-- A part of a statement is no value but one comment, for a diagnostic with the given code, and
this diagnostic is all that is recorded for the part. -/
def Generated.IsRefusal (part : Generated String) (code : DiagnosticCode) : Prop :=
  ∃ diagnostic : Diagnostic, diagnostic.code = code ∧
    part.diagnostics = [diagnostic] ∧
    Reads part.value.toList [.comment (commentText diagnostic)]

theorem Entry.isRefusal_generated (diagnostic : Diagnostic) :
    (Entry.refused diagnostic).generated.IsRefusal diagnostic.code :=
  ⟨diagnostic, rfl, rfl, reads_asComment diagnostic⟩

theorem AttributeValue.isRefusal_entry {value : AttributeValue}
    (nonFinite : value.value.IsNonFinite) (subject : String) :
    (value.entry subject).generated.IsRefusal .invalidContentValue := by
  rcases nonFinite.exists_float with ⟨number, value_eq, nonFinite⟩
  -- A value that also failed validation is refused for that reason, under the same code.
  cases error_eq : value.error with
  | some error =>
      have refusal_eq : value.refusal? subject = some (.invalidContentValue subject error) := by
        rw [refusal?, error_eq]
      rw [entry, refusal_eq]
      exact Entry.isRefusal_generated _
  | none =>
      have refusal_eq : value.refusal? subject = some (.invalidContentValue subject
          ("Value " ++ plainFloat number ++ " for " ++ subject ++ " is not a finite number")) := by
        rw [refusal?, error_eq, value_eq]
        exact if_neg nonFinite
      rw [entry, refusal_eq]
      exact Entry.isRefusal_generated _

theorem AttributeValue.entry_eq_stored {value : AttributeValue} (valid : value.error = none)
    (storable : ¬value.value.IsNonFinite) (subject : String) :
    value.entry subject = .stored value.value := by
  rcases value with ⟨name, value, error⟩
  subst valid
  apply Scope.entry_valid
  rintro number rfl
  exact not_not.mp storable

namespace Scope

variable {scope : Scope} {table : Table} {row : ContentRow} {value : AttributeValue}

/-! ## Rows -/

theorem snd_insertedCell (scope : Scope) (table : Table) (value : AttributeValue) :
    (·.2) <$> scope.insertedCell table value =
      (scope.insertedEntry table value).2.generated := by
  rw [insertedCell_eq]
  apply Generated.eq_of_parts <;> simp

theorem isRefusal_insertedCell (nonFinite : value.value.IsNonFinite) :
    ((·.2) <$> scope.insertedCell table value).IsRefusal
      (if (table.column? value.name).isSome then .invalidContentValue
        else .contentColumnNotFound) := by
  rw [snd_insertedCell]
  cases found : table.column? value.name with
  | none =>
      -- Without a column, the value is not even looked at.
      rw [insertedEntry, found]
      exact Entry.isRefusal_generated _
  | some column =>
      rw [insertedEntry, found]
      exact AttributeValue.isRefusal_entry nonFinite _

theorem insertedCell_of_valid (valid : value.error = none) (storable : ¬value.value.IsNonFinite)
    (hasColumn : (table.column? value.name).isSome) :
    (·.2) <$> scope.insertedCell table value = ⟨value.value.expression, []⟩ := by
  rcases Option.isSome_iff_exists.mp hasColumn with ⟨column, found⟩
  rw [snd_insertedCell, insertedEntry, found]
  simp only [AttributeValue.entry_eq_stored valid storable]
  rfl

/-- A value as it is passed to a procedure. -/
def passedValue (row : ContentRow) (value : AttributeValue) : Generated String :=
  Generated.fragment (value.expression (row.entity ++ "." ++ value.name))

theorem isRefusal_passedValue (nonFinite : value.value.IsNonFinite) :
    (passedValue row value).IsRefusal .invalidContentValue := by
  rw [passedValue, AttributeValue.fragment_expression]
  exact AttributeValue.isRefusal_entry nonFinite _

theorem passedValue_of_valid (valid : value.error = none) (storable : ¬value.value.IsNonFinite) :
    passedValue row value = ⟨value.value.expression, []⟩ := by
  rw [passedValue, AttributeValue.fragment_expression,
    AttributeValue.entry_eq_stored valid storable]
  rfl

/-! ## Suppliers -/

theorem suppliedCells_eq_suppliedValues (scope : Scope) (table : Table) (row : ContentRow) :
    (scope.suppliedCells table row).map (·.2) =
      (row.suppliedValues table).map (·.value.expression) := by
  rw [suppliedCells, ContentRow.suppliedValues, List.map_filterMap, List.map_filterMap]
  apply List.filterMap_congr
  intro column _
  rw [← ContentRow.mentions]
  split
  · rfl
  · rw [Option.map_map, Option.map_map]
    rfl

/-- Between the parentheses of its values, an INSERT has what the row gives and what suppliers give,
and only what the row gives leads to diagnostics. -/
theorem insertStatement_given_supplied (scope : Scope) (table : Table) (row : ContentRow) :
    let given := row.values.map (scope.insertedCell table)
    let supplied := scope.suppliedCells table row
    (scope.insertStatement table row).value =
        scope.insertText table (given.map (·.value.1) ++ supplied.map (·.1))
          (", ".intercalate
            (given.map (·.value.2) ++ (row.suppliedValues table).map (·.value.expression))) ∧
      (scope.insertStatement table row).diagnostics = given.flatMap (·.diagnostics) := by
  intro given supplied
  refine ⟨?_, ?_⟩
  · rw [← suppliedCells_eq_suppliedValues scope]
    have cells : (Generated.each (scope.insertedCell table) row.values).value =
        given.map (·.value) := by
      rw [Generated.value_each, List.map_map]
      rfl
    simp only [insertStatement, Generated.value_map, cells, List.map_append, List.map_map]
    rfl
  · simp [insertStatement, given, List.flatMap_map]

theorem exists_line_columnDefinition {column : Column} {address : ColumnRef} {supplier : Value}
    (refers : column.target? table.toEntity = some address)
    (supplied : column.supplier = some supplier) :
    ∃ before, (scope.columnDefinition table column).value.line =
      before ++ " DEFAULT " ++ supplier.expression := by
  rw [line_columnDefinition refers, Column.referenceClauses, supplied, Option.elim_some,
    ← String.append_assoc, ← String.append_assoc]
  exact ⟨_, rfl⟩

/-- A float that is no finite number is refused where a row gives it and passes where a supplier
does. In an INSERT, and likewise in a CALL, each such value of the row is replaced by a comment with
one diagnostic; the code tells whether the table has the column. All other valid values are stored.
Each such supplier of a column that the row does not mention is shown as a bare word, and nothing is
recorded for it. The definition of a foreign key column with such a supplier ends in that word, and
only its types can lead to diagnostics. -/
theorem nonFinite_refused_unless_supplied (scope : Scope) (row : ContentRow) :
    let passed := row.values.map (passedValue row)
    (∀ table : Table,
      let given := row.values.map (scope.insertedCell table)
      let supplied := row.suppliedValues table
      let names := given.map (·.value.1) ++ (scope.suppliedCells table row).map (·.1)
      (scope.insertStatement table row).value =
          scope.insertText table names (", ".intercalate
            (given.map (·.value.2) ++ supplied.map (·.value.expression))) ∧
        (scope.insertStatement table row).diagnostics = given.flatMap (·.diagnostics) ∧
        (∀ value ∈ row.values, value.value.IsNonFinite →
          ((·.2) <$> scope.insertedCell table value).IsRefusal
            (if (table.column? value.name).isSome then .invalidContentValue
              else .contentColumnNotFound)) ∧
        (∀ value ∈ row.values, value.error = none → ¬value.value.IsNonFinite →
          (table.column? value.name).isSome →
            (·.2) <$> scope.insertedCell table value = ⟨value.value.expression, []⟩) ∧
        ∀ value ∈ supplied, value.value.IsNonFinite → IsNonFiniteWord value.value.expression) ∧
      ((scope.callStatement row).value =
          scope.callText row (", ".intercalate (passed.map (·.value))) ∧
        (scope.callStatement row).diagnostics = passed.flatMap (·.diagnostics) ∧
        (∀ value ∈ row.values, value.value.IsNonFinite →
          (passedValue row value).IsRefusal .invalidContentValue) ∧
        ∀ value ∈ row.values, value.error = none → ¬value.value.IsNonFinite →
          passedValue row value = ⟨value.value.expression, []⟩) ∧
      ∀ (table : Table) (column : Column) (address : ColumnRef) (supplier : Value),
        column.target? table.toEntity = some address → column.supplier = some supplier →
          supplier.IsNonFinite →
            (∃ before, (scope.columnDefinition table column).value.line =
              before ++ " DEFAULT " ++ supplier.expression) ∧
            IsNonFiniteWord supplier.expression ∧
            (scope.columnDefinition table column).diagnostics =
              (scope.types table.toEntity column).diagnostics := by
  intro passed
  refine ⟨?_, ⟨?_, ?_, ?_, ?_⟩, ?_⟩
  · intro table given supplied names
    rcases scope.insertStatement_given_supplied table row with ⟨value_eq, diagnostics_eq⟩
    refine ⟨value_eq, diagnostics_eq, ?_, ?_, ?_⟩
    · intro value _ nonFinite
      exact isRefusal_insertedCell nonFinite
    · intro value _ valid storable hasColumn
      exact insertedCell_of_valid valid storable hasColumn
    · intro value _ nonFinite
      exact nonFinite.isNonFiniteWord
  · simp only [callStatement, Generated.value_map, Generated.value_each, passed, List.map_map]
    rfl
  · simp [callStatement, passed, passedValue, List.flatMap_map]
  · intro value _ nonFinite
    exact isRefusal_passedValue nonFinite
  · intro value _ valid storable
    exact passedValue_of_valid valid storable
  · intro table column address supplier refers supplied nonFinite
    refine ⟨exists_line_columnDefinition refers supplied, nonFinite.isNonFiniteWord, ?_⟩
    rw [columnDefinition, Generated.diagnostics_map, slot, Generated.diagnostics_map]

/-- A row gives one column a value that is not a number, and an infinity to a column that does not
exist. The reference of the table has an infinity as its supplier. -/
theorem nonFinite_refused_unless_supplied_reading :
    let infinity : Value := .float (1.0 / 0.0)
    let level : Column := ⟨"Level", .integer, false, false, false, false, none, false, []⟩
    let origin : Column :=
      ⟨"Origin", .relationship ⟨"Sensor", "Id"⟩, false, false, false, false, some infinity, false,
        []⟩
    let reading : Table := ⟨⟨"Reading", [level, origin]⟩, false, []⟩
    let scope : Scope := Dialect.postgresql.scope { name := "weather", tables := [reading] }
    let notNumber : AttributeValue := .valid "Level" (.float (0.0 / 0.0))
    let unplaced : AttributeValue := .valid "Depth" infinity
    let row : ContentRow := ⟨"Reading", [notNumber, unplaced], none⟩
    notNumber.value.IsNonFinite ∧ infinity.IsNonFinite ∧
      origin.target? reading.toEntity = some ⟨"Sensor", "Id"⟩ ∧
      ((·.2) <$> scope.insertedCell reading notNumber).IsRefusal .invalidContentValue ∧
      ((·.2) <$> scope.insertedCell reading unplaced).IsRefusal .contentColumnNotFound ∧
      (passedValue row notNumber).IsRefusal .invalidContentValue ∧
      .valid "Origin" infinity ∈ row.suppliedValues reading ∧
      IsNonFiniteWord infinity.expression ∧
      ∃ before, (scope.columnDefinition reading origin).value.line =
        before ++ " DEFAULT " ++ infinity.expression := by
  intro infinity level origin reading scope notNumber unplaced row
  have notNumber_nonFinite : notNumber.value.IsNonFinite := by
    change ¬(FloatValue.ofFloat (0.0 / 0.0)).isFinite
    decide +kernel
  have infinity_nonFinite : infinity.IsNonFinite := by
    change ¬(FloatValue.ofFloat (1.0 / 0.0)).isFinite
    decide +kernel
  rcases nonFinite_refused_unless_supplied scope row with ⟨inserted, ⟨_, _, passed, _⟩, defaults⟩
  have supplied : .valid "Origin" infinity ∈ row.suppliedValues reading := List.mem_singleton_self _
  rcases inserted reading with ⟨_, _, refused, _, words⟩
  rcases defaults reading origin _ infinity rfl rfl infinity_nonFinite with ⟨line_eq, _, _⟩
  exact ⟨notNumber_nonFinite, infinity_nonFinite, rfl,
    refused notNumber (by simp [row]) notNumber_nonFinite,
    refused unplaced (by simp [row]) infinity_nonFinite,
    passed notNumber (by simp [row]) notNumber_nonFinite, supplied,
    words _ supplied infinity_nonFinite, line_eq⟩

/-- What suppliers give is not looked at: an infinity is inserted and is the default of a foreign
key, and nothing is recorded. -/
theorem supplied_nonFinite_written :
    let infinity : Value := .float (1.0 / 0.0)
    let key : Column := ⟨"Id", .integer, false, true, false, false, none, false, []⟩
    let level : Column := ⟨"Level", .integer, false, false, false, false, none, false, []⟩
    let origin : Column :=
      ⟨"Origin", .relationship ⟨"Sensor", "Id"⟩, false, false, false, false, some infinity, false,
        []⟩
    let sensor : Table := ⟨⟨"Sensor", [key]⟩, false, []⟩
    let reading : Table := ⟨⟨"Reading", [level, origin]⟩, false, []⟩
    let scope : Scope :=
      Dialect.postgresql.scope { name := "weather", tables := [sensor, reading] }
    let row : ContentRow := ⟨"Reading", [.valid "Level" (.integer 4)], none⟩
    infinity.IsNonFinite ∧
      (scope.insertStatement reading row).value =
        "INSERT INTO reading (level, origin) VALUES (4, inf);" ∧
      (scope.insertStatement reading row).diagnostics = [] ∧
      (scope.columnDefinition reading origin).value.line = "origin INTEGER NOT NULL DEFAULT inf" ∧
      (scope.columnDefinition reading origin).diagnostics = [] := by
  intro infinity key level origin sensor reading scope row
  have infinity_nonFinite : infinity.IsNonFinite := by
    change ¬(FloatValue.ofFloat (1.0 / 0.0)).isFinite
    decide +kernel
  exact ⟨infinity_nonFinite, by decide +kernel, by decide +kernel, by decide +kernel,
    by decide +kernel⟩

end Scope

end SchemaCompiler
