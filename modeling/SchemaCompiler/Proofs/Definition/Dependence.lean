import SchemaCompiler.Definition.Table

/-!
# What definitions depend on

The definition of a column is made in a scope, but it reads only a small part of it: the rule of the
dialect for identity columns, the identifier and the types of the column itself, and the two names
of the column that it refers to. Two scopes that agree on this part define the column alike, and the
table alike when they do so for all of its columns.
-/

namespace SchemaCompiler

namespace Generated

variable {α β : Type}

/-- Things that are generated alike one by one are generated alike together. -/
theorem each_congr {first second : α → Generated β} {elements : List α}
    (same : ∀ element ∈ elements, first element = second element) :
    each first elements = each second elements := by
  induction elements with
  | nil => rfl
  | cons element rest ih =>
      rw [List.forall_mem_cons] at same
      simp only [each, same.1, ih same.2]

/-- What is generated for a last element comes last. -/
theorem each_concat (generate : α → Generated β) (elements : List α) (last : α) :
    each generate (elements ++ [last]) =
      ⟨(each generate elements).value ++ [(generate last).value],
        (each generate elements).diagnostics ++ (generate last).diagnostics⟩ := by
  induction elements with
  | nil => simp [each]
  | cons element rest ih => simp [each, ih]

/-- Only the value that was generated is changed. -/
theorem map_congr {first second : α → β} {generated : Generated α}
    (same : first generated.value = second generated.value) :
    first <$> generated = second <$> generated :=
  congrArg (Generated.mk · (generated.diagnostics ++ [])) same

end Generated

namespace Scope

variable {scope other : Scope} {table : Table} {column : Column}

/-- Two scopes that agree on what the definition of a column depends on. -/
structure DefinesAlike (scope other : Scope) (table : Table) (column : Column) : Prop where
  identityColumn : other.profile.identityColumn = scope.profile.identityColumn
  name : other.naming.tableColumnName column = scope.naming.tableColumnName column
  types : other.types table.toEntity column = scope.types table.toEntity column
  /-- The table and the column to which it refers have the same names. -/
  target : ∀ address, column.target? table.toEntity = some address →
    other.naming.tableName address.table = scope.naming.tableName address.table ∧
      other.targetName address = scope.targetName address

theorem DefinesAlike.definition (alike : scope.DefinesAlike other table column) (name : String)
    (types : SqlTypes) :
    other.definition ⟨table, column, name, types⟩ =
      scope.definition ⟨table, column, name, types⟩ := by
  rw [Scope.definition, Scope.definition, alike.identityColumn]
  split
  · rfl
  · rw [plainDefinition, plainDefinition]
    split
    · rename_i address refers
      rcases alike.target address refers with ⟨tableName, targetName⟩
      rw [referenceDefinition, referenceDefinition, tableName, targetName]
    · rfl

/-- Such scopes define the column alike, and record the same for it. -/
theorem DefinesAlike.columnDefinition (alike : scope.DefinesAlike other table column) :
    other.columnDefinition table column = scope.columnDefinition table column := by
  rw [Scope.columnDefinition, Scope.columnDefinition, slot, slot, alike.name, alike.types]
  exact Generated.map_congr (alike.definition _ _)

theorem tableDefinition_congr
    (name : other.naming.tableDefinitionName other.schema table.name =
      scope.naming.tableDefinitionName scope.schema table.name)
    (alike : ∀ column ∈ table.columns, scope.DefinesAlike other table column) :
    other.tableDefinition table = scope.tableDefinition table := by
  have columns : Generated.each (other.columnDefinition table) table.columns =
      Generated.each (scope.columnDefinition table) table.columns :=
    Generated.each_congr fun column column_mem => (alike column column_mem).columnDefinition
  rw [tableDefinition, tableDefinition, name, columns]

end Scope

end SchemaCompiler
