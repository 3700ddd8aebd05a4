import SchemaCompiler.Content.Statement

/-!
# Entries of statements

The statement for a content row shows one entry for each value of the row, and an INSERT also one
for each supplier that is used. An entry is a value, or the diagnostic that stands in its place as a
comment. This file says which entries a statement has. The text of the statement and what is
recorded for it both follow from the entries: nothing else is written between the parentheses, and
nothing else is recorded.
-/

namespace SchemaCompiler

/-- What a statement shows in the place of one value. -/
inductive Entry
  | stored (value : Value)
  /-- No value, but a comment that explains why. -/
  | refused (diagnostic : Diagnostic)

namespace Entry

/-- An entry as an expression. -/
def expression : Entry → String
  | .stored value => value.expression
  | .refused diagnostic => diagnostic.asComment

/-- What is recorded for an entry. -/
def diagnostics : Entry → List Diagnostic
  | .stored _ => []
  | .refused diagnostic => [diagnostic]

theorem mem_diagnostics {entry : Entry} {diagnostic : Diagnostic} :
    diagnostic ∈ entry.diagnostics ↔ entry = .refused diagnostic := by
  cases entry <;> simp [diagnostics, eq_comm]

/-- An entry with what is recorded for it. -/
def generated (entry : Entry) : Generated String :=
  ⟨entry.expression, entry.diagnostics⟩

@[simp]
theorem value_generated (entry : Entry) : entry.generated.value = entry.expression :=
  rfl

@[simp]
theorem diagnostics_generated (entry : Entry) :
    entry.generated.diagnostics = entry.diagnostics :=
  rfl

end Entry

namespace AttributeValue

/-- Why a value cannot be stored: it failed validation, or it is a float that is no finite number.
-/
def refusal? (value : AttributeValue) (subject : String) : Option Diagnostic :=
  match value.error, value.value with
  | some error, _ => some (.invalidContentValue subject error)
  | none, .float number =>
    if (FloatValue.ofFloat number).isFinite then
      none
    else
      some (.invalidContentValue subject
        ("Value " ++ plainFloat number ++ " for " ++ subject ++ " is not a finite number"))
  | none, _ => none

/-- The entry for a value. -/
def entry (value : AttributeValue) (subject : String) : Entry :=
  (value.refusal? subject).elim (.stored value.value) .refused

theorem fragment_expression (value : AttributeValue) (subject : String) :
    Generated.fragment (value.expression subject) = (value.entry subject).generated := by
  rcases value with ⟨name, value, _ | error⟩
  · cases value with
    | float number =>
        by_cases finite : (FloatValue.ofFloat number).isFinite
        · simp only [expression, entry, refusal?, finite, if_true]
          rfl
        · simp only [expression, entry, refusal?, finite, Bool.false_eq_true, if_false]
          rfl
    | text | integer | boolean | null | identity | enumeration | sql => rfl
  · rfl

/-- A stored entry is the value itself. -/
theorem eq_of_entry_eq_stored {value : AttributeValue} {subject : String} {stored : Value}
    (entry_eq : value.entry subject = .stored stored) : stored = value.value := by
  cases refusal_eq : value.refusal? subject with
  | none => simpa [entry, refusal_eq, eq_comm] using entry_eq
  | some diagnostic => simp [entry, refusal_eq] at entry_eq

end AttributeValue

namespace Scope

variable {scope : Scope} {table : Table} {row : ContentRow} {value : AttributeValue}

/-- The name and the entry for a value in an INSERT. -/
def insertedEntry (scope : Scope) (table : Table) (value : AttributeValue) : String × Entry :=
  let subject := table.name ++ "." ++ value.name
  match table.column? value.name with
  | none =>
    let name := scope.naming.columnName value.name
    (name, .refused (.contentColumnNotFound subject name (scope.naming.tableName table.name)))
  | some column => (scope.naming.tableColumnName column, value.entry subject)

/-- The names and the entries for the columns that a row leaves to their suppliers. -/
def suppliedEntries (scope : Scope) (table : Table) (row : ContentRow) : List (String × Entry) :=
  table.columns.filterMap fun column =>
    if row.values.any (·.name == column.name) then
      none
    else
      column.supplier.map fun value => (scope.naming.tableColumnName column, .stored value)

/-- The names and the entries of an INSERT, in order. -/
def insertEntries (scope : Scope) (table : Table) (row : ContentRow) : List (String × Entry) :=
  row.values.map (scope.insertedEntry table) ++ scope.suppliedEntries table row

/-- The entries of a CALL, in order. -/
def callEntries (row : ContentRow) : List Entry :=
  row.values.map fun value => value.entry (row.entity ++ "." ++ value.name)

/-- The INSERT for some columns, with the given text between the parentheses of its values. -/
def insertText (scope : Scope) (table : Table) (names : List String) (values : String) : String :=
  "INSERT INTO " ++ scope.naming.tableName table.name ++ " (" ++ ", ".intercalate names
    ++ ") VALUES (" ++ values ++ ");"

/-- The CALL for a row, with the given text between its parentheses. -/
def callText (scope : Scope) (row : ContentRow) (values : String) : String :=
  "CALL " ++ scope.naming.procedureName row.entity ++ "(" ++ values ++ ");"

theorem insertedCell_eq (scope : Scope) (table : Table) (value : AttributeValue) :
    scope.insertedCell table value =
      ((scope.insertedEntry table value).1, ·) <$>
        (scope.insertedEntry table value).2.generated := by
  cases found : table.column? value.name with
  | none => simp [insertedCell, insertedEntry, found, Generated.fragment]; rfl
  | some column => simp [insertedCell, insertedEntry, found, AttributeValue.fragment_expression]

theorem suppliedCells_eq (scope : Scope) (table : Table) (row : ContentRow) :
    scope.suppliedCells table row =
      (scope.suppliedEntries table row).map fun entry => (entry.1, entry.2.expression) := by
  rw [suppliedCells, suppliedEntries, List.map_filterMap]
  congr 1
  funext column
  split
  · rfl
  · rw [Option.map_map]
    rfl

/-- Suppliers are never refused. -/
theorem exists_eq_stored {entry : String × Entry}
    (entry_mem : entry ∈ scope.suppliedEntries table row) :
    ∃ column ∈ table.columns, (∀ value ∈ row.values, value.name ≠ column.name) ∧
      ∃ supplier, column.supplier = some supplier ∧ entry.2 = .stored supplier := by
  obtain ⟨column, column_mem, supplied⟩ := List.mem_filterMap.mp entry_mem
  split at supplied
  · cases supplied
  · rename_i unmentioned
    obtain ⟨supplier, supplier_eq, rfl⟩ := Option.map_eq_some_iff.mp supplied
    refine ⟨column, column_mem, ?_, supplier, supplier_eq, rfl⟩
    simpa using unmentioned

/-- An INSERT consists of its entries. -/
theorem value_insertStatement (scope : Scope) (table : Table) (row : ContentRow) :
    (scope.insertStatement table row).value =
      scope.insertText table ((scope.insertEntries table row).map (·.1))
        (", ".intercalate ((scope.insertEntries table row).map (·.2.expression))) := by
  have cells : (Generated.each (scope.insertedCell table) row.values).value =
      (row.values.map (scope.insertedEntry table)).map fun entry =>
        (entry.1, entry.2.expression) := by
    simp [insertedCell_eq]
  rw [insertStatement, Generated.value_map, cells, suppliedCells_eq, ← List.map_append,
    ← insertEntries]
  simp only [List.map_map]
  rfl

/-- For an INSERT its refused entries are recorded. -/
theorem diagnostics_insertStatement (scope : Scope) (table : Table) (row : ContentRow) :
    (scope.insertStatement table row).diagnostics =
      (scope.insertEntries table row).flatMap (·.2.diagnostics) := by
  have supplied : (scope.suppliedEntries table row).flatMap (·.2.diagnostics) = [] := by
    rw [List.flatMap_eq_nil_iff]
    intro entry entry_mem
    obtain ⟨_, _, _, supplier, _, stored⟩ := exists_eq_stored entry_mem
    rw [stored]
    rfl
  simp [insertStatement, insertEntries, insertedCell_eq, supplied, List.flatMap_map]

/-- A CALL consists of its entries. -/
theorem value_callStatement (scope : Scope) (row : ContentRow) :
    (scope.callStatement row).value =
      scope.callText row (", ".intercalate ((callEntries row).map Entry.expression)) := by
  simp [callStatement, callText, callEntries, AttributeValue.fragment_expression,
    Function.comp_def]

/-- For a CALL its refused entries are recorded. -/
theorem diagnostics_callStatement (scope : Scope) (row : ContentRow) :
    (scope.callStatement row).diagnostics = (callEntries row).flatMap Entry.diagnostics := by
  simp [callStatement, callEntries, AttributeValue.fragment_expression, List.flatMap_map]

end Scope

end SchemaCompiler
