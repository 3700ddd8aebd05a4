import SchemaCompiler.Dialect

/-!
# The SQLite dialect

Tables, views and content only. Numeric identities count up; other identities are made by a function
of the engine.
-/

namespace SchemaCompiler

namespace Dialect.Sqlite

/-- A column whose values the engine makes. -/
def identityColumn (kind : IdentityKind) (slot : ColumnSlot) : ColumnDefinition where
  line :=
    match kind with
    | .native =>
      slot.name ++ " " ++ slot.types.definition ++ " PRIMARY KEY DEFAULT uuid_generate_v4 ()"
    | .numeric => slot.name ++ " INTEGER PRIMARY KEY AUTOINCREMENT"

end Dialect.Sqlite

namespace Dialect

/-- The dialect of SQLite. -/
def sqlite : Dialect where
  name := "sqlite"
  aliases := ["sqlite", "sqlite3"]
  naming := .uppercase
  identityColumn := Sqlite.identityColumn

end Dialect

end SchemaCompiler
