import SchemaCompiler.Content.Literal
import SchemaCompiler.Profile

/-!
# Statements for content rows

A row becomes an INSERT into its table or a CALL of its procedure. Values that are not valid are
replaced by comments, and rows whose table is not in the model by a line comment. In an INSERT, the
columns that the row does not mention are filled by their suppliers. A blank statement separates
neighbouring rows of different tables.
-/

namespace SchemaCompiler

/-! ## Separators -/

/-- Whether a blank statement goes before a row: only between rows of different tables. -/
def needsSeparator (current : String) (previous : Option String) (isFirst : Bool) : Bool :=
  !isFirst && previous.any (· != current)

/-- What is remembered from one row of a group to the next. -/
structure ContentCursor where
  /-- The table of the last row that was inserted. -/
  previous : Option String := none
  deriving DecidableEq, Repr

namespace ContentCursor

/-- Whether no row has been inserted yet. -/
def isFresh (cursor : ContentCursor) : Bool :=
  cursor.previous.isNone

/-- Whether a blank statement goes before a row of the given table. -/
def separates (cursor : ContentCursor) (table : String) : Bool :=
  needsSeparator table cursor.previous cursor.isFresh

/-- Moves on to a row of the given table. -/
def advance (_cursor : ContentCursor) (table : String) : ContentCursor :=
  ⟨some table⟩

end ContentCursor

/-! ## Values -/

namespace Diagnostic

/-- A row for a table that is not in the model. -/
def contentTableNotFound (entity : String) : Diagnostic where
  code := .contentTableNotFound
  subject := entity
  message :=
    "Unable to create content row, table for '" ++ entity ++ "' was not found in the model"

/-- A value for a column that is not in its table. -/
def contentColumnNotFound (subject columnName tableName : String) : Diagnostic where
  code := .contentColumnNotFound
  subject := subject
  message := "Column " ++ columnName ++ " not found in table " ++ tableName

/-- A value that failed validation. -/
def invalidContentValue (subject reason : String) : Diagnostic where
  code := .invalidContentValue
  subject := subject
  message := reason

end Diagnostic

namespace AttributeValue

/-- A value as an expression. Neither a value that failed validation nor a float that is no finite
number has one. -/
def expression (value : AttributeValue) (subject : String) : Except Diagnostic String :=
  match value.error with
  | some error => .error (.invalidContentValue subject error)
  | none =>
    match value.value with
    | .float number =>
      if (FloatValue.ofFloat number).isFinite then
        .ok (plainFloat number)
      else
        .error (.invalidContentValue subject
          ("Value " ++ plainFloat number ++ " for " ++ subject ++ " is not a finite number"))
    | other => .ok other.expression

end AttributeValue

/-! ## Statements -/

namespace Scope

/-- The name and the expression that a row gives for one attribute of its table. -/
def insertedCell (scope : Scope) (table : Table) (value : AttributeValue) :
    Generated (String × String) :=
  let subject := table.name ++ "." ++ value.name
  match table.column? value.name with
  | none =>
    let name := scope.naming.columnName value.name
    (name, ·) <$> Generated.fragment
      (.error (.contentColumnNotFound subject name (scope.naming.tableName table.name)))
  | some column =>
    (scope.naming.tableColumnName column, ·) <$> Generated.fragment (value.expression subject)

/-- The names and expressions of the columns that a row does not mention and that have a supplier.
-/
def suppliedCells (scope : Scope) (table : Table) (row : ContentRow) : List (String × String) :=
  table.columns.filterMap fun column =>
    if row.values.any (·.name == column.name) then
      none
    else
      column.supplier.map fun value => (scope.naming.tableColumnName column, value.expression)

/-- The statement that inserts a row into a table. -/
def insertStatement (scope : Scope) (table : Table) (row : ContentRow) : Generated String :=
  (fun cells =>
      let cells := cells ++ scope.suppliedCells table row
      "INSERT INTO " ++ scope.naming.tableName table.name
        ++ " (" ++ ", ".intercalate (cells.map (·.1))
        ++ ") VALUES (" ++ ", ".intercalate (cells.map (·.2)) ++ ");")
    <$> Generated.each (scope.insertedCell table) row.values

/-- The statements for a row that names a table, and the cursor after it. -/
def insertStatements (scope : Scope) (cursor : ContentCursor) (row : ContentRow) :
    Generated (List String × ContentCursor) :=
  match scope.model.table? row.entity with
  | none =>
    (fun comment => ([comment], cursor))
      <$> Generated.statement (.error (.contentTableNotFound row.entity))
  | some table =>
    (fun insert =>
        ((if cursor.separates table.name then [""] else []) ++ [insert],
          cursor.advance table.name))
      <$> scope.insertStatement table row

/-- The statement that passes the values of a row to a procedure, in their order. -/
def callStatement (scope : Scope) (row : ContentRow) : Generated String :=
  (fun values =>
      "CALL " ++ scope.naming.procedureName row.entity ++ "(" ++ ", ".intercalate values ++ ");")
    <$> Generated.each
      (fun value => Generated.fragment (value.expression (row.entity ++ "." ++ value.name)))
      row.values

/-- The statements for a row that may name a procedure, and the cursor after it. A call is always
preceded by a blank statement and leaves the cursor alone. -/
def callOrInsertStatements (scope : Scope) (cursor : ContentCursor) (row : ContentRow) :
    Generated (List String × ContentCursor) :=
  if (scope.model.procedure? row.entity).isSome then
    (fun call => (["", call], cursor)) <$> scope.callStatement row
  else
    scope.insertStatements cursor row

end Scope

end SchemaCompiler
