import SchemaCompiler.Content.Literal
import SchemaCompiler.Profile

/-!
# Definitions of columns

The shape of a column definition depends on the kind of the column, in this order: identity columns
are left to the dialect, columns that refer to others get a foreign key, temporal and boolean
columns may get a default, and all others consist of name, type and constraints.
-/

namespace SchemaCompiler

namespace ColumnSlot

/-- A definition from name, type, constraints and a default clause. -/
def lineWith (slot : ColumnSlot) (type defaultClause : String) : String :=
  slot.name ++ " " ++ type ++ slot.primaryKeyClause ++ slot.notNullClause ++ defaultClause

/-- The definition of a column without any default. -/
def genericDefinition (slot : ColumnSlot) : ColumnDefinition where
  line := slot.lineWith slot.types.definition ""

/-- The definition of a column that may default to the current time. -/
def temporalDefinition (slot : ColumnSlot) (now : String) : ColumnDefinition where
  line :=
    slot.lineWith slot.types.definition
      (if slot.column.defaultsToNow then " DEFAULT " ++ now else "")

/-- The definition of a column that may default to false. -/
def booleanDefinition (slot : ColumnSlot) : ColumnDefinition where
  line :=
    slot.lineWith slot.types.definition
      (if slot.column.defaultsToFalse then " DEFAULT FALSE" else "")

/-- The column that a column refers to. -/
def target? (slot : ColumnSlot) : Option ColumnRef :=
  slot.column.target? slot.table.toEntity

end ColumnSlot

namespace Scope

/-- The identifier of the column at an address. Outside the model it is formed from the name. -/
def targetName (scope : Scope) (address : ColumnRef) : String :=
  match scope.model.resolve? address with
  | some (_, column) => scope.naming.tableColumnName column
  | none => scope.naming.columnName address.column

/-- The definition of a column that refers to another one. -/
def referenceDefinition (scope : Scope) (slot : ColumnSlot) (address : ColumnRef) :
    ColumnDefinition where
  line :=
    slot.lineWith slot.types.reference
      (slot.column.supplier.elim "" fun value => " DEFAULT " ++ value.expression)
  constraint :=
    some ("FOREIGN KEY (" ++ slot.name ++ ") REFERENCES " ++ scope.naming.tableName address.table
      ++ "(" ++ scope.targetName address ++ ")")

/-- The definition of a column whose values do not come from the engine. -/
def plainDefinition (scope : Scope) (slot : ColumnSlot) : ColumnDefinition :=
  match slot.target? with
  | some address => scope.referenceDefinition slot address
  | none =>
    match slot.column.kind with
    | .dateTime => slot.temporalDefinition "CURRENT_TIMESTAMP"
    | .time => slot.temporalDefinition "CURRENT_TIME"
    | .date => slot.temporalDefinition "CURRENT_DATE"
    | .boolean => slot.booleanDefinition
    | _ => slot.genericDefinition

end Scope

namespace Column

/-- The kind of identity of a column, if the engine makes its values. -/
def identityKind? (column : Column) : Option IdentityKind :=
  match column.kind with
  | .nativeIdentity => if column.primaryKey then some .native else none
  | .numericIdentity => some .numeric
  | _ => none

end Column

namespace Scope

/-- The definition of a column. -/
def definition (scope : Scope) (slot : ColumnSlot) : ColumnDefinition :=
  match slot.column.identityKind? with
  | some kind => scope.profile.identityColumn kind slot
  | none => scope.plainDefinition slot

/-- A column of a table with its identifier and types. -/
def slot (scope : Scope) (table : Table) (column : Column) : Generated ColumnSlot :=
  (⟨table, column, scope.naming.tableColumnName column, ·⟩) <$> scope.types table.toEntity column

/-- The definition of a column of a table. -/
def columnDefinition (scope : Scope) (table : Table) (column : Column) :
    Generated ColumnDefinition :=
  scope.definition <$> scope.slot table column

end Scope

end SchemaCompiler
