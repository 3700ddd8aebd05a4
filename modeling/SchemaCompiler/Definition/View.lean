import SchemaCompiler.Profile
import SchemaCompiler.Text.Wrap

/-!
# Definitions of views

A view with a query body is dropped and created anew, with its columns filled into lines; a view
that is given as a statement is taken as it is.
-/

namespace SchemaCompiler

/-- The width of the lines that list the columns of a view. -/
def viewColumnsWidth : Nat := 80

/-- A query without the blanks around it and the semicolons at its end. -/
def bareQuery (query : String) : String :=
  String.ofList ((Text.trim query).toList.reverse.dropWhile (· == ';')).reverse

namespace Scope

/-- The definition of a view. -/
def viewDefinition (scope : Scope) (view : View) : String :=
  match view.query with
  | .statement content => content
  | .body query =>
    let name := scope.naming.viewDefinitionName scope.schema view.name
    let columns := ", ".intercalate (view.columns.map scope.naming.tableColumnName)
    "DROP VIEW IF EXISTS " ++ name ++ ";\nCREATE OR REPLACE VIEW " ++ name ++ "(\n  "
      ++ Text.wrap columns viewColumnsWidth "\n  " ++ ") AS " ++ bareQuery query ++ ";"

end Scope

end SchemaCompiler
