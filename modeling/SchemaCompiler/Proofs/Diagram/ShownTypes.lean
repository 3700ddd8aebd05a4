import SchemaCompiler.Proofs.Definition.ReferenceType
import SchemaCompiler.Proofs.Diagram.Layout

/-!
# Types in a diagram

A diagram and the definitions of tables decide on their own which of its types a column is shown
with: the diagram looks for the column that it refers to, and the definition goes by the kind of the
column. This file shows that the two decide alike for every column whose definition is not left to
the dialect, so a diagram shows the types that are generated. Where a type cannot be found, the same
comment stands in both texts, and the same diagnostic is recorded.
-/

namespace SchemaCompiler

namespace Column

/-- The default of a column that does not refer to another one. -/
def ownDefault (column : Column) : String :=
  match column.kind with
  | .dateTime => if column.defaultsToNow then " DEFAULT " ++ "CURRENT_TIMESTAMP" else ""
  | .time => if column.defaultsToNow then " DEFAULT " ++ "CURRENT_TIME" else ""
  | .date => if column.defaultsToNow then " DEFAULT " ++ "CURRENT_DATE" else ""
  | .boolean => if column.defaultsToFalse then " DEFAULT FALSE" else ""
  | _ => ""

/-- What follows the type in the line of a column whose values do not come from the engine. -/
def clauses (column : Column) (table : Entity) : String :=
  match column.target? table with
  | some _ => column.referenceClauses
  | none =>
    (if column.primaryKey then " PRIMARY KEY" else "")
      ++ (if column.nullable then "" else " NOT NULL") ++ column.ownDefault

end Column

namespace Scope

variable {scope : Scope} {table : Table} {column : Column}

/-- The definition of a column has the type that the diagram shows. -/
theorem line_columnDefinition_shownType (notIdentity : column.identityKind? = none) :
    (scope.columnDefinition table column).value.line =
      scope.naming.tableColumnName column ++ " "
        ++ Diagram.shownType (scope.types table.toEntity column).value
            (column.target? table.toEntity)
        ++ column.clauses table.toEntity := by
  cases refers : column.target? table.toEntity with
  | some address =>
      rw [line_columnDefinition refers, Column.clauses, refers]
      rfl
  | none =>
      -- Only here does the kind matter, for the default.
      rw [value_columnDefinition_of_not_identity notIdentity, slot, Generated.value_map]
      simp only [plainDefinition, ColumnSlot.target?, refers, Column.clauses, Column.ownDefault]
      cases column.kind <;>
        simp only [ColumnSlot.genericDefinition, ColumnSlot.temporalDefinition,
          ColumnSlot.booleanDefinition, ColumnSlot.lineWith, ColumnSlot.primaryKeyClause,
          ColumnSlot.notNullClause, Diagram.shownType, String.append_assoc] <;>
        rfl

theorem diagnostics_columnDefinition (scope : Scope) (table : Table) (column : Column) :
    (scope.columnDefinition table column).diagnostics =
      (scope.types table.toEntity column).diagnostics := by
  rw [columnDefinition, Generated.diagnostics_map, slot, Generated.diagnostics_map]

theorem mem_diagnostics_tableDefinition {diagnostic : Diagnostic}
    (column_mem : column ∈ table.columns)
    (recorded : diagnostic ∈ (scope.columnDefinition table column).diagnostics) :
    diagnostic ∈ (scope.tableDefinition table).diagnostics := by
  rw [tableDefinition, Generated.diagnostics_map, Generated.diagnostics_each]
  exact List.mem_flatMap.mpr ⟨column, column_mem, recorded⟩

end Scope

namespace Diagram

variable {diagram : Diagram} {table : Table} {column : Column}

theorem mem_columns_of_shown (shown : column ∈ diagram.shownColumns table) :
    column ∈ table.columns := by
  rcases List.mem_append.mp shown with isKey | other
  · exact List.mem_of_find?_eq_some (Option.mem_toList.mp isKey)
  · exact (List.mem_filter.mp other).1

theorem diagnostics_columnLine (diagram : Diagram) (table : Table) (column : Column) :
    (diagram.columnLine table column).diagnostics =
      (diagram.scope.types table.toEntity column).diagnostics := by
  rw [columnLine, Generated.diagnostics_map]

/-- Every column that is drawn is shown with the type that stands in its definition, unless the
dialect defines it. If the type cannot be found, the comment that explains why stands in its place
in both texts, and both record the same diagnostic. -/
theorem shows_generated_types (diagram : Diagram) {table : Table}
    (table_drawn : table ∈ diagram.drawnTables) {column : Column}
    (column_shown : column ∈ diagram.shownColumns table)
    (notIdentity : column.identityKind? = none) :
    let scope := diagram.scope
    let shown := diagram.columnLine table column
    let defined := scope.columnDefinition table column
    (∃ blocks connectors,
        Draws diagram.text.value scope.model.name blocks connectors ∧
          (diagram.block table).value ∈ blocks ∧ shown.value ∈ (diagram.block table).value) ∧
      (∃ definitions,
        Creates (scope.tableDefinition table).value
            (scope.naming.tableDefinitionName scope.schema table.name) definitions ∧
          definitions.length = table.columns.length ∧
          ∀ place : Nat, table.columns[place]? = some column →
            definitions[place]? = some defined.value) ∧
      (∃ type,
        (∀ text, shown.value =
            "    " ++ (if column.nullable then "" else "*") ++ " " ++ diagram.columnTitle column
              ++ ": " ++ text ++ diagram.stereotype column (column.target? table.toEntity) ↔
          text = type) ∧
        (∀ text, defined.value.line =
            scope.naming.tableColumnName column ++ " " ++ text ++ column.clauses table.toEntity ↔
          text = type) ∧
        ∀ diagnostic, scope.resolver.resolve table.toEntity column = .error diagnostic →
          type = diagnostic.asComment ∧ shown.diagnostics = [diagnostic]) ∧
      shown.diagnostics = defined.diagnostics ∧
      ∀ diagnostic ∈ shown.diagnostics,
        diagnostic ∈ diagram.text.diagnostics ∧
          diagnostic ∈ (scope.tableDefinition table).diagnostics := by
  intro scope shown defined
  have recorded_eq : shown.diagnostics = defined.diagnostics := by
    rw [diagnostics_columnLine, Scope.diagnostics_columnDefinition]
  refine ⟨?_, ?_, ?_, recorded_eq, ?_⟩
  · exact ⟨_, _, diagram.draws_text, List.mem_map_of_mem table_drawn,
      columnLine_mem_block column_shown⟩
  · refine ⟨scope.columnDefinitions table, scope.creates_tableDefinition_qualified table,
      by simp [Scope.columnDefinitions], ?_⟩
    intro place column_at
    rw [Scope.columnDefinitions, List.getElem?_map, column_at]
    rfl
  · refine ⟨shownType (scope.types table.toEntity column).value (column.target? table.toEntity),
      ?_, ?_, ?_⟩
    · intro text
      simp only [shown, columnLine, Generated.value_map, String.append_left_inj,
        String.append_right_inj]
      exact eq_comm
    · intro text
      simp only [defined, Scope.line_columnDefinition_shownType notIdentity,
        String.append_left_inj, String.append_right_inj]
      exact eq_comm
    · intro diagnostic failed
      have types_eq : scope.types table.toEntity column =
          ⟨.uniform diagnostic.asComment, [diagnostic]⟩ := by
        rw [Scope.types, TypeResolver.types, failed]
      rw [diagnostics_columnLine, types_eq, shownType]
      exact ⟨ite_self _, rfl⟩
  · intro diagnostic recorded
    refine ⟨?_, ?_⟩
    · rw [diagnostics_text]
      exact List.mem_flatMap.mpr
        ⟨table, table_drawn, List.mem_flatMap.mpr ⟨column, column_shown, recorded⟩⟩
    · rw [recorded_eq] at recorded
      exact Scope.mem_diagnostics_tableDefinition (mem_columns_of_shown column_shown) recorded

/-- A category refers to another one, but categories have no primary key. -/
theorem shows_generated_types_category :
    let parent : Column := { name := "parent", kind := .selfReference }
    let category : Table := ⟨⟨"Category", [parent]⟩, false, []⟩
    let diagram : Diagram :=
      { scope := Dialect.postgresql.scope { name := "library", tables := [category] } }
    let failure := Diagnostic.noPrimaryKey category.toEntity parent
    let shown := diagram.columnLine category parent
    let defined := diagram.scope.columnDefinition category parent
    category ∈ diagram.drawnTables ∧ parent ∈ diagram.shownColumns category ∧
      parent.identityKind? = none ∧
      diagram.scope.resolver.resolve category.toEntity parent = .error failure ∧
      (∀ text, shown.value = "    * parent: " ++ text ++ " <<SELF>>" ↔
        text = failure.asComment) ∧
      (∀ text, defined.value.line = "parent " ++ text ++ " NOT NULL" ↔
        text = failure.asComment) ∧
      shown.diagnostics = [failure] ∧ defined.diagnostics = [failure] ∧
      failure ∈ diagram.text.diagnostics := by
  intro parent category diagram failure shown defined
  have table_drawn : category ∈ diagram.drawnTables := List.mem_singleton_self _
  have column_shown : parent ∈ diagram.shownColumns category := List.mem_singleton_self _
  have notIdentity : parent.identityKind? = none := rfl
  have failed : diagram.scope.resolver.resolve category.toEntity parent = .error failure := by
    decide +kernel
  obtain ⟨_, _, ⟨type, shown_iff, defined_iff, explained⟩, recorded_eq, recorded⟩ :=
    shows_generated_types diagram table_drawn column_shown notIdentity
  obtain ⟨type_eq, shown_recorded⟩ := explained failure failed
  have title : "    " ++ (if parent.nullable then "" else "*") ++ " "
      ++ diagram.columnTitle parent ++ ": " = "    * parent: " := by
    decide +kernel
  have name : diagram.scope.naming.tableColumnName parent ++ " " = "parent " := by decide +kernel
  have clauses : parent.clauses category.toEntity = " NOT NULL" := by decide +kernel
  rw [type_eq, title] at shown_iff
  rw [type_eq, name, clauses] at defined_iff
  refine ⟨table_drawn, column_shown, notIdentity, failed, shown_iff, defined_iff, shown_recorded,
    recorded_eq ▸ shown_recorded, (recorded failure ?_).1⟩
  rw [shown_recorded]
  exact List.mem_singleton_self _

end Diagram

end SchemaCompiler
