import SchemaCompiler.Decimal.Notation
import SchemaCompiler.Model.Value
import SchemaCompiler.Text.Quoted

/-!
# Values as SQL

How a value is written where SQL expects an expression. Texts and identities are quoted; a fragment
of SQL is taken as it is.
-/

namespace SchemaCompiler

namespace Value

/-- A value as an expression. -/
def expression : Value → String
  | .text content => Text.quoted content
  | .integer number => toString number
  | .float number => plainFloat number
  | .boolean truth => if truth then "true" else "false"
  | .null => "NULL"
  | .identity key => Text.quoted key
  | .enumeration code => toString code
  | .sql fragment => fragment

end Value

end SchemaCompiler
