import SchemaCompiler.Definition.Column

/-!
# Definitions of tables

A table is defined by a line for each column, in order, followed by the constraints that the columns
contribute. The definitions of all tables of a model are separated by blank lines.
-/

namespace SchemaCompiler

/-- The lines between the parentheses of a table definition. -/
def tableLines (definitions : List ColumnDefinition) : List String :=
  (definitions.map (·.line) ++ definitions.filterMap (·.constraint)).map ("    " ++ ·)

/-- The statement that creates a table. -/
def createTable (name : String) (definitions : List ColumnDefinition) : String :=
  "CREATE TABLE IF NOT EXISTS " ++ name ++ " (\n" ++ (",\n").intercalate (tableLines definitions)
    ++ "\n);"

namespace Scope

/-- The definition of a table. -/
def tableDefinition (scope : Scope) (table : Table) : Generated String :=
  createTable (scope.naming.tableDefinitionName scope.schema table.name)
    <$> Generated.each (scope.columnDefinition table) table.columns

/-- The definitions of all tables of the model. -/
def modelDefinition (scope : Scope) : Generated String :=
  "\n\n".intercalate <$> Generated.each scope.tableDefinition scope.model.tables

end Scope

end SchemaCompiler
