import SchemaCompiler.Artifact.Nature
import SchemaCompiler.Naming
import SchemaCompiler.SqlType

/-!
# Profiles of dialects

A profile holds what every generator asks of a dialect: names, types, identity columns and the check
that follows a definition. A `Scope` is a model seen through a profile; the generators of
definitions and content work in a scope.
-/

namespace SchemaCompiler

/-- The two kinds of columns whose values the engine makes. -/
inductive IdentityKind
  | native
  | numeric
  deriving DecidableEq, Repr

namespace IdentityKind

/-- The name of an identity kind. -/
def name : IdentityKind → String
  | .native => "AutoNative"
  | .numeric => "Numeric"

end IdentityKind

/-- A column of a table with all that is decided before its definition is written. -/
structure ColumnSlot where
  /-- The table of the column. -/
  table : Table
  /-- The column. -/
  column : Column
  /-- The identifier of the column. -/
  name : String
  /-- The types of the column, or comments in place of them. -/
  types : SqlTypes

namespace ColumnSlot

/-- The primary key clause of a column. -/
def primaryKeyClause (slot : ColumnSlot) : String :=
  if slot.column.primaryKey then " PRIMARY KEY" else ""

/-- The clause that rules out NULL. -/
def notNullClause (slot : ColumnSlot) : String :=
  if slot.column.nullable then "" else " NOT NULL"

end ColumnSlot

/-- The definition of a column. -/
structure ColumnDefinition where
  /-- The text among the columns of the table. -/
  line : String
  /-- The constraint that goes with it, among those of the table. -/
  constraint : Option String := none
  deriving DecidableEq, Repr

/-- What every generator asks of a dialect. -/
structure Profile where
  /-- The name of the dialect. -/
  name : String
  /-- Further names of the dialect. -/
  aliases : List String
  /-- The engine that content is addressed to. -/
  engine : String := name
  /-- Further names of the engine. -/
  engineAliases : List String := aliases
  /-- How identifiers are formed. -/
  naming : Naming
  /-- How columns get their types. -/
  registry : TypeRegistry := .ansi
  /-- The nature of the artifacts. -/
  nature : ArtifactNature := .sql
  /-- The definition of a column whose values the engine makes. -/
  identityColumn : IdentityKind → ColumnSlot → ColumnDefinition
  /-- The check that follows the definition of a routine with the given name. -/
  checkOf : String → Option String := fun _ => none

namespace Profile

/-- Whether a name is one of the names of the dialect. -/
def answersTo (profile : Profile) (name : String) : Bool :=
  Text.sameName profile.name name || profile.aliases.any (Text.sameName · name)

/-- Whether a name is one of the names of the engine. -/
def runsOn (profile : Profile) (engine : String) : Bool :=
  Text.sameName profile.engine engine || profile.engineAliases.any (Text.sameName · engine)

end Profile

/-- A model seen through a profile. -/
structure Scope where
  model : Model
  profile : Profile

namespace Scope

/-- How identifiers are formed. -/
def naming (scope : Scope) : Naming :=
  scope.profile.naming

/-- The schema of qualified definitions. -/
def schema (scope : Scope) : String :=
  scope.model.schema

/-- How types are found. -/
def resolver (scope : Scope) : TypeResolver :=
  ⟨scope.model, scope.profile.registry⟩

/-- The types of a column of an entity. -/
def types (scope : Scope) (entity : Entity) (column : Column) : Generated SqlTypes :=
  scope.resolver.types entity column

end Scope

end SchemaCompiler
