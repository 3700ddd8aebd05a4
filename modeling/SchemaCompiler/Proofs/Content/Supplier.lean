import SchemaCompiler.Dialect.Sqlite
import SchemaCompiler.Proofs.Content.Entry
import SchemaCompiler.Proofs.KeyedList

/-!
# Supplied values

An INSERT shows the values of its row and then those of the suppliers, for the columns that the row
does not mention. Here the row is completed beforehand instead, with a valid value for each of these
columns, and the INSERT for the completed row is the same. A column that the row mentions is not
filled: whatever supplier it has, the INSERT stays what it is.

Both are shown on the entries, from which the statement and its diagnostics follow. Column names
have to be distinct, as a value is for the first column of its name; and the floats of suppliers
have to be finite, as a supplier is never refused but a value can be.
-/

namespace SchemaCompiler

theorem Generated.eq_of_parts {α : Type} {first second : Generated α}
    (value_eq : first.value = second.value)
    (diagnostics_eq : first.diagnostics = second.diagnostics) : first = second := by
  cases first
  cases second
  simp_all

namespace ContentRow

/-- Whether a row gives a value, be it valid or not, for a column. -/
def mentions (row : ContentRow) (column : Column) : Bool :=
  row.values.any (·.name == column.name)

/-- The values of the suppliers for the columns that a row does not mention, in their order. -/
def suppliedValues (row : ContentRow) (table : Table) : List AttributeValue :=
  table.columns.filterMap fun column =>
    if row.mentions column then none else column.supplier.map (AttributeValue.valid column.name)

/-- The row with these values behind its own. -/
def completed (row : ContentRow) (table : Table) : ContentRow :=
  { row with values := row.values ++ row.suppliedValues table }

/-- The column with another supplier, if a row mentions it. -/
def resupply (row : ContentRow) (supplier : Column → Option Value) (column : Column) : Column :=
  if row.mentions column then { column with supplier := supplier column } else column

theorem name_resupply (row : ContentRow) (supplier : Column → Option Value) (column : Column) :
    (row.resupply supplier column).name = column.name := by
  rw [resupply]
  split <;> rfl

theorem mentions_completed (row : ContentRow) (table : Table) (column : Column) :
    (row.completed table).mentions column =
      (row.mentions column || (row.suppliedValues table).any (·.name == column.name)) :=
  List.any_append

theorem name_ne_of_mentions (row : ContentRow) {table : Table} {column : Column}
    (mentioned : row.mentions column) :
    ∀ value ∈ row.suppliedValues table, value.name ≠ column.name := by
  intro value value_mem name_eq
  rw [suppliedValues, List.mem_filterMap] at value_mem
  rcases value_mem with ⟨other, _, supplied⟩
  split at supplied
  · cases supplied
  · rename_i unmentioned
    rcases Option.map_eq_some_iff.mp supplied with ⟨_, _, rfl⟩
    have same : other.name = column.name := name_eq
    rw [mentions, same] at unmentioned
    exact unmentioned mentioned

end ContentRow

namespace Table

/-- The table with other suppliers for the columns that a row mentions. -/
def resupplied (table : Table) (row : ContentRow) (supplier : Column → Option Value) : Table :=
  { table with
    columns := table.columns.map (row.resupply supplier) }

end Table

namespace Scope

variable {scope : Scope} {table : Table} {row : ContentRow}

/-- An INSERT is told by its entries. -/
theorem insertStatement_congr {other : Table} {otherRow : ContentRow}
    (name_eq : table.name = other.name)
    (entries_eq : scope.insertEntries table row = scope.insertEntries other otherRow) :
    scope.insertStatement table row = scope.insertStatement other otherRow := by
  have value_eq : (scope.insertStatement table row).value =
      (scope.insertStatement other otherRow).value := by
    rw [value_insertStatement, value_insertStatement, entries_eq]
    unfold insertText
    rw [name_eq]
  have diagnostics_eq : (scope.insertStatement table row).diagnostics =
      (scope.insertStatement other otherRow).diagnostics := by
    rw [diagnostics_insertStatement, diagnostics_insertStatement, entries_eq]
  exact Generated.eq_of_parts value_eq diagnostics_eq

theorem suppliedEntries_eq (scope : Scope) (table : Table) (row : ContentRow) :
    scope.suppliedEntries table row = table.columns.filterMap fun column =>
      if row.mentions column then
        none
      else
        column.supplier.map fun value => (scope.naming.tableColumnName column, .stored value) :=
  rfl

/-! ## Columns that are not mentioned -/

/-- A valid value is stored, unless it is a float that is no finite number. -/
theorem entry_valid {name subject : String} {value : Value}
    (finite : ∀ number, value = .float number → (FloatValue.ofFloat number).isFinite) :
    (AttributeValue.valid name value).entry subject = .stored value := by
  cases value with
  | float number => simp [AttributeValue.entry, AttributeValue.refusal?, AttributeValue.valid,
      finite number rfl]
  | text | integer | boolean | null | identity | enumeration | sql => rfl

theorem map_insertedEntry_suppliedValues
    (distinct : (table.columns.map (·.name)).Nodup)
    (finite : ∀ column ∈ table.columns, ∀ number, column.supplier = some (.float number) →
      (FloatValue.ofFloat number).isFinite) :
    (row.suppliedValues table).map (scope.insertedEntry table) =
      scope.suppliedEntries table row := by
  rw [ContentRow.suppliedValues, suppliedEntries_eq, List.map_filterMap]
  apply List.filterMap_congr
  intro column column_mem
  have first : table.column? column.name = some column :=
    Keyed.find?_eq_some_of_mem distinct column_mem
  split
  · rfl
  · cases supplier : column.supplier with
    | none => rfl
    | some value =>
        have stored : (AttributeValue.valid column.name value).entry
            (table.name ++ "." ++ column.name) = .stored value := by
          apply entry_valid
          rintro number rfl
          exact finite column column_mem number supplier
        simp only [Option.map_some, insertedEntry, AttributeValue.valid] at stored ⊢
        simp only [first, stored]

/-- A completed row leaves nothing to suppliers. -/
theorem suppliedEntries_completed : scope.suppliedEntries table (row.completed table) = [] := by
  rw [suppliedEntries_eq, List.filterMap_eq_nil_iff]
  intro column column_mem
  by_cases mentioned : row.mentions column
  · simp [ContentRow.mentions_completed, mentioned]
  · cases supplier : column.supplier with
    | none => simp
    | some value =>
        have supplied : AttributeValue.valid column.name value ∈ row.suppliedValues table := by
          rw [ContentRow.suppliedValues, List.mem_filterMap]
          exact ⟨column, column_mem, by simp [mentioned, supplier]⟩
        have covered : (row.suppliedValues table).any (·.name == column.name) := by
          rw [List.any_eq_true]
          exact ⟨_, supplied, by simp [AttributeValue.valid]⟩
        simp [ContentRow.mentions_completed, covered]

/-! ## Columns that are mentioned -/

theorem tableColumnName_supplier (naming : Naming) (column : Column) (supplier : Option Value) :
    naming.tableColumnName { column with supplier := supplier } =
      naming.tableColumnName column := by
  induction naming with
  | base => rfl
  | commonKey inner ih => simp only [Naming.tableColumnName, ih]

theorem tableColumnName_resupply (naming : Naming) (supplier : Column → Option Value)
    (column : Column) :
    naming.tableColumnName (row.resupply supplier column) = naming.tableColumnName column := by
  rw [ContentRow.resupply]
  split
  · exact tableColumnName_supplier naming column _
  · rfl

theorem insertedEntry_resupplied (value : AttributeValue) (supplier : Column → Option Value) :
    scope.insertedEntry (table.resupplied row supplier) value =
      scope.insertedEntry table value := by
  have found : (table.resupplied row supplier).column? value.name =
      (table.column? value.name).map (row.resupply supplier) := by
    rw [Entity.column?, Table.resupplied, List.find?_map]
    simp only [Function.comp_def, ContentRow.name_resupply]
    rfl
  have name_eq : (table.resupplied row supplier).name = table.name := rfl
  simp only [insertedEntry, found, name_eq]
  cases table.column? value.name with
  | none => rfl
  | some column => simp only [Option.map_some, tableColumnName_resupply]

theorem suppliedEntries_resupplied (supplier : Column → Option Value) :
    scope.suppliedEntries (table.resupplied row supplier) row =
      scope.suppliedEntries table row := by
  simp only [suppliedEntries_eq, Table.resupplied, List.filterMap_map]
  congr 1
  funext column
  have mentions_eq : row.mentions (row.resupply supplier column) = row.mentions column := by
    simp only [ContentRow.mentions, ContentRow.name_resupply]
  simp only [Function.comp_apply, mentions_eq]
  by_cases mentioned : row.mentions column
  · simp [mentioned]
  · simp [mentioned, ContentRow.resupply]

/-- Supplied values behave as if they were written in the row. For a table with distinct column
names and finite floats in its suppliers, the INSERT for a row and what is recorded for it are those
for the row with a valid value behind its own for each column with a supplier that it does not
mention. No value is added for a column that it mentions, and whatever the suppliers of these
columns are, nothing changes. -/
theorem insertStatement_completed (scope : Scope) (row : ContentRow)
    (distinct : (table.columns.map (·.name)).Nodup)
    (finite : ∀ column ∈ table.columns, ∀ number, column.supplier = some (.float number) →
      (FloatValue.ofFloat number).isFinite) :
    scope.insertStatement table row = scope.insertStatement table (row.completed table) ∧
      (∀ column, row.mentions column →
        ∀ value ∈ row.suppliedValues table, value.name ≠ column.name) ∧
      ∀ supplier : Column → Option Value,
        scope.insertStatement (table.resupplied row supplier) row =
          scope.insertStatement table row := by
  refine ⟨?_, fun column => row.name_ne_of_mentions, ?_⟩
  · have values_eq : (row.completed table).values = row.values ++ row.suppliedValues table := rfl
    have entries_eq : scope.insertEntries table row =
        scope.insertEntries table (row.completed table) := by
      rw [insertEntries, insertEntries, suppliedEntries_completed, List.append_nil, values_eq,
        List.map_append, map_insertedEntry_suppliedValues distinct finite]
    have name_eq : table.name = table.name := rfl
    exact insertStatement_congr name_eq entries_eq
  · intro supplier
    have name_eq : (table.resupplied row supplier).name = table.name := rfl
    have entries_eq : scope.insertEntries (table.resupplied row supplier) row =
        scope.insertEntries table row := by
      rw [insertEntries, insertEntries, suppliedEntries_resupplied]
      congr 1
      apply List.map_congr_left
      intro value _
      exact insertedEntry_resupplied value supplier
    exact insertStatement_congr name_eq entries_eq

/-- A row gives a refused value for one column with a supplier, a value for a column that does not
exist, and one column twice. Its other columns have a float, a text and nothing to supply. -/
theorem insertStatement_completed_note :
    let column (name : String) (supplier : Option Value) : Column :=
      ⟨name, .text 20, false, false, false, false, supplier, false, []⟩
    let note : Table := ⟨⟨"Note", [
      column "Weight" (some (.float 2.5)),
      column "Body" none,
      column "State" (some (.text "draft")),
      column "Grade" (some (.integer 1)),
      column "Origin" none]⟩, false, []⟩
    let row : ContentRow := ⟨"Note", [
      .invalid "Grade" "no grade",
      .valid "Body" (.text "one"),
      .valid "Height" (.integer 3),
      .valid "Body" (.text "two")], none⟩
    let scope : Scope := Dialect.sqlite.scope { name := "library", tables := [note] }
    (note.columns.map (·.name)).Nodup ∧
      (∀ column ∈ note.columns, ∀ number, column.supplier = some (.float number) →
        (FloatValue.ofFloat number).isFinite) ∧
      (row.suppliedValues note).map (·.name) = ["Weight", "State"] ∧
      (scope.insertStatement note row).diagnostics.map (·.code) =
        [.invalidContentValue, .contentColumnNotFound] ∧
      scope.insertStatement note row = scope.insertStatement note (row.completed note) := by
  intro column note row scope
  have distinct : (note.columns.map (·.name)).Nodup := by decide
  have finite : ∀ column ∈ note.columns, ∀ number, column.supplier = some (.float number) →
      (FloatValue.ofFloat number).isFinite := by
    intro column column_mem number supplier
    simp only [note, List.mem_cons, List.not_mem_nil, or_false] at column_mem
    rcases column_mem with rfl | rfl | rfl | rfl | rfl <;> cases supplier
    decide +kernel
  exact ⟨distinct, finite, by decide +kernel, by decide +kernel,
    (insertStatement_completed scope row distinct finite).1⟩

end Scope

end SchemaCompiler
