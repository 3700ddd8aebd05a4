import SchemaCompiler.Diagnostic
import SchemaCompiler.Model
import SchemaCompiler.Text.AsciiCase

/-!
# Types of columns

The type of a column depends on where it is written, so a column has one type for each context.
Types come from a registry: the first registration with a key of the column decides. A registration
gives the types outright, or sends the question on, to the primary key of the same entity or to the
column that a relationship refers to. Chains of such references are followed for `maxHops` steps.
-/

namespace SchemaCompiler

/-- The types of a column in all contexts. -/
structure SqlTypes where
  /-- In the definition of a column. -/
  definition : String
  /-- In the definition of a column that refers to this one. -/
  reference : String
  /-- For an input argument of a procedure. -/
  procedureInput : String
  /-- For an output argument of a procedure. -/
  procedureOutput : String
  /-- For an input argument of a function. -/
  functionInput : String
  /-- For the result of a function. -/
  functionOutput : String
  /-- In the definition of a composite type. -/
  composite : String
  deriving DecidableEq, Repr

namespace SqlTypes

/-- The same type in every context. -/
def uniform (name : String) : SqlTypes :=
  ⟨name, name, name, name, name, name, name⟩

/-- Other types in definitions of columns. -/
def withDefinitions (types : SqlTypes) (name : String) : SqlTypes :=
  { types with definition := name, reference := name }

/-- Texts, which only definitions of columns bound in length. -/
def ofText (maxLength : Option Nat) : SqlTypes :=
  match maxLength with
  | none => uniform "TEXT"
  | some bound => (uniform "TEXT").withDefinitions ("VARCHAR(" ++ toString bound ++ ")")

end SqlTypes

/-- How a registration finds the types of a column. -/
inductive TypeMapper
  /-- Decides by itself. -/
  | direct (types : Entity → Column → Except Diagnostic SqlTypes)
  /-- Takes the types of the primary key of the same entity. -/
  | selfReference
  /-- Takes the types of the column that a relationship refers to. -/
  | relationship

namespace TypeMapper

/-- The same type for every column, in every context. -/
def uniform (name : String) : TypeMapper :=
  .direct fun _ _ => .ok (.uniform name)

/-- Texts bounded by the kind of the column. -/
def text : TypeMapper :=
  .direct fun _ column => .ok (.ofText column.kind.maxLength?)

end TypeMapper

/-- Keys, and the mapper that they select. -/
structure Registration where
  /-- The keys, compared without regard to case. -/
  keys : List String
  /-- How the types are found. -/
  mapper : TypeMapper

namespace Registration

/-- Whether one of the keys of a column is registered here. -/
def covers (registration : Registration) (column : Column) : Bool :=
  column.registryKeys.any fun key => registration.keys.any fun known => Text.sameName known key

end Registration

/-- Registrations in order of precedence. -/
structure TypeRegistry where
  registrations : List Registration

namespace TypeRegistry

/-- The registry of the standard types. -/
def ansi : TypeRegistry where
  registrations := [
    ⟨["attr.Integer"], .uniform "INTEGER"⟩,
    ⟨["attr.NumericIdentity"], .uniform "INTEGER"⟩,
    ⟨["attr.Boolean"], .uniform "BOOLEAN"⟩,
    ⟨["attr.AutoIdentityNative"], .uniform "UUID"⟩,
    ⟨["attr.Text", "attr.EncryptedText", "attr.TextIdentity"], .text⟩,
    ⟨["attr.UuidText"], .uniform "UUID"⟩,
    ⟨["attr.Date"], .uniform "DATE"⟩,
    ⟨["attr.Time"], .uniform "TIME"⟩,
    ⟨["attr.DateTime"], .uniform "TIMESTAMPTZ"⟩,
    ⟨["attr.SelfReference"], .selfReference⟩,
    ⟨["attr.Relationship"], .relationship⟩,
    ⟨["attr.Json"], .uniform "JSON"⟩,
    ⟨["attr.Jsonb"], .uniform "JSONB"⟩]

/-- The registrations of one registry, followed by those of another. -/
def followedBy (first second : TypeRegistry) : TypeRegistry :=
  ⟨first.registrations ++ second.registrations⟩

/-- The first registration that covers a column. -/
def find? (registry : TypeRegistry) (column : Column) : Option Registration :=
  registry.registrations.find? (·.covers column)

/-- The number of registrations. -/
def size (registry : TypeRegistry) : Nat :=
  registry.registrations.length

end TypeRegistry

/-! ## Why a type cannot be found -/

namespace Diagnostic

/-- No registration covers the column. -/
def typeNotFound (entity : Entity) (column : Column) : Diagnostic where
  code := .typeNotFound
  subject := entity.qualified column
  message :=
    "type not found for " ++ entity.qualified column ++ " (" ++ column.kind.label ++ ")"

/-- The chain of references does not end. -/
def referenceCycle (entity : Entity) (column : Column) : Diagnostic where
  code := .referenceCycle
  subject := entity.qualified column
  message := "reference cycle while resolving type of " ++ entity.qualified column

/-- A self reference in an entity without a primary key. -/
def noPrimaryKey (entity : Entity) (column : Column) : Diagnostic where
  code := .noPrimaryKey
  subject := entity.qualified column
  message :=
    entity.qualified column ++ " references its own entity but " ++ entity.name
      ++ " has no primary key"

/-- A self reference to a primary key whose type cannot be found. -/
def primaryKeyTypeNotFound (entity : Entity) (column key : Column) (inner : Diagnostic) :
    Diagnostic where
  code := .primaryKeyTypeNotFound
  subject := entity.qualified column
  message :=
    "primary key type of " ++ entity.qualified key ++ " not found for "
      ++ entity.qualified column ++ ": " ++ inner.message

/-- A relationship mapper that covers a column of another kind. -/
def notARelationship (entity : Entity) (column : Column) : Diagnostic where
  code := .relationshipNotFound
  subject := entity.qualified column
  message :=
    "reference not found for " ++ entity.qualified column ++ ": column is not a relationship"

/-- A relationship whose target, or the type of its target, cannot be found. -/
def brokenLink (entity : Entity) (column : Column) (target : ColumnRef) (reason : String) :
    Diagnostic where
  code := .relationshipNotFound
  subject := entity.qualified column
  message :=
    "reference not found for " ++ entity.qualified column ++ " -> " ++ target.table ++ "."
      ++ target.column ++ ": " ++ reason

/-- Explains a failure further down a chain of references, unless the chain does not end. -/
def explainedBy (inner outer : Diagnostic) : Diagnostic :=
  if inner.code = .referenceCycle then inner else outer

end Diagnostic

/-- A model together with the registry that gives its columns their types. -/
structure TypeResolver where
  model : Model
  registry : TypeRegistry

namespace TypeResolver

/-- The greatest number of references that are followed for one column. -/
def maxHops : Nat := 16

/-- The types of a column, looked up in at most `steps` registrations. -/
def resolveWithin (resolver : TypeResolver) (steps : Nat) (entity : Entity) (column : Column) :
    Except Diagnostic SqlTypes :=
  match steps with
  | 0 => .error (.referenceCycle entity column)
  | steps + 1 =>
    match resolver.registry.find? column with
    | none => .error (.typeNotFound entity column)
    | some registration =>
      match registration.mapper with
      | .direct types => types entity column
      | .selfReference =>
        match entity.primaryKey? with
        | none => .error (.noPrimaryKey entity column)
        | some key =>
          (resolver.resolveWithin steps entity key).mapError fun inner =>
            inner.explainedBy (.primaryKeyTypeNotFound entity column key inner)
      | .relationship =>
        match column.kind with
        | .relationship target =>
          match resolver.model.resolve? target with
          | none =>
            .error (.brokenLink entity column target "referenced column does not exist")
          | some (table, targetColumn) =>
            (resolver.resolveWithin steps table.toEntity targetColumn).mapError fun inner =>
              inner.explainedBy (.brokenLink entity column target inner.message)
        | _ => .error (.notARelationship entity column)

/-- The types of a column of an entity. -/
def resolve (resolver : TypeResolver) (entity : Entity) (column : Column) :
    Except Diagnostic SqlTypes :=
  resolver.resolveWithin (maxHops + 1) entity column

/-- The types of a column. Where there are none, a comment that explains why stands for each. -/
def types (resolver : TypeResolver) (entity : Entity) (column : Column) : Generated SqlTypes :=
  match resolver.resolve entity column with
  | .ok types => ⟨types, []⟩
  | .error diagnostic => ⟨.uniform diagnostic.asComment, [diagnostic]⟩

end TypeResolver

end SchemaCompiler
