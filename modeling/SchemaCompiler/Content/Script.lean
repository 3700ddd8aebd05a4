import SchemaCompiler.Dialect

/-!
# Content scripts

The statements for the rows of each content group. Rows for other engines are left out, and so are
groups without any row for this one. Every group starts with a fresh cursor.
-/

namespace SchemaCompiler

/-- The statements of a content group. -/
structure ContentScript where
  /-- The statements in order, blank separators included. -/
  statements : List String
  /-- The artifact that receives them, if not the primary one. -/
  persistAs : Option String
  deriving DecidableEq, Repr

namespace ContentScript

/-- The text of a script: one statement a line. -/
def sql (script : ContentScript) : String :=
  "\n".intercalate script.statements

end ContentScript

namespace Dialect

/-- The statements for rows that follow each other in a group. -/
def rowsStatements (dialect : Dialect) (scope : Scope) (cursor : ContentCursor) :
    List ContentRow → Generated (List String)
  | [] => pure []
  | row :: rest => do
    let (statements, cursor) ← dialect.rowStatements scope cursor row
    let later ← dialect.rowsStatements scope cursor rest
    return statements ++ later

/-- The rows of a group that are meant for the engine of the dialect. -/
def compatibleRows (dialect : Dialect) (group : ContentGroup) : List ContentRow :=
  group.rows.filter (·.isCompatible dialect.runsOn)

/-- The script of a content group. -/
def groupScript (dialect : Dialect) (model : Model) (group : ContentGroup) :
    Generated ContentScript :=
  (⟨·, group.persistAs⟩)
    <$> dialect.rowsStatements (dialect.scope model) {} (dialect.compatibleRows group)

/-- The scripts of all content groups that have statements. -/
def contentScripts (dialect : Dialect) (model : Model) : Generated (List ContentScript) :=
  (·.filter fun script => !script.statements.isEmpty)
    <$> Generated.each (dialect.groupScript model) model.content

end Dialect

end SchemaCompiler
