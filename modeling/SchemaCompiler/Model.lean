import SchemaCompiler.Model.Content
import SchemaCompiler.Model.Routine

/-!
# Relational models

A model is the input of a run: tables, views, composite types, routines and content under one schema
name. Entities refer to each other by name, and `Model.resolve?` follows such a reference. A model
is read from JSON text, and is written in a form that reads back.
-/

namespace SchemaCompiler

open Json

/-- A logical relational model. -/
structure Model where
  /-- The name of the model. -/
  name : String
  /-- The schema that qualified definitions belong to. -/
  schema : String := "public"
  /-- Extensions of the engine that the model needs. -/
  extensions : List String := []
  tables : List Table := []
  views : List View := []
  types : List TypeDefinition := []
  functions : List StoredFunction := []
  procedures : List StoredProcedure := []
  content : List ContentGroup := []
  deriving BEq, Inhabited

/-- A column of a table and the column that it refers to. -/
structure Relationship where
  /-- The table that refers. -/
  sourceTable : Table
  /-- The column that refers. -/
  source : Column
  /-- The table referred to. -/
  targetTable : Table
  /-- The column referred to. -/
  target : Column
  deriving BEq, Inhabited

namespace Relationship

/-- Whether a relationship stays within one entity. -/
def isSelfReference (relationship : Relationship) : Bool :=
  relationship.sourceTable.name == relationship.targetTable.name

end Relationship

namespace Model

/-- The first table of an entity. -/
def table? (model : Model) (entity : String) : Option Table :=
  model.tables.find? (·.name == entity)

/-- The first procedure of an entity. -/
def procedure? (model : Model) (entity : String) : Option StoredProcedure :=
  model.procedures.find? (·.name == entity)

/-- The table and column at an address. -/
def resolve? (model : Model) (address : ColumnRef) : Option (Table × Column) := do
  let table ← model.table? address.table
  let column ← table.column? address.column
  return (table, column)

/-- The relationship that a column of a table establishes. -/
def relationship? (model : Model) (table : Table) (column : Column) : Option Relationship := do
  let address ← column.target? table.toEntity
  let (targetTable, target) ← model.resolve? address
  return ⟨table, column, targetTable, target⟩

/-- All relationships, in the order of the columns that establish them. -/
def relationships (model : Model) : List Relationship :=
  model.tables.flatMap fun table => table.columns.filterMap (model.relationship? table)

/-- All entities with columns: tables, views, types, functions and procedures in turn. -/
def entities (model : Model) : List Entity :=
  model.tables.map (·.toEntity) ++ model.views.map (·.toEntity) ++ model.types.map (·.toEntity)
    ++ model.functions.map (·.toEntity) ++ model.procedures.map (·.toEntity)

/-- Models as records. -/
def codec : Codec Model :=
  Codec.record "RelationalModel"
    [.required "name" .text,
      .defaulted "schema" .text "public",
      .listed "extensions" .text,
      .required "tables" (.list Table.codec),
      .listed "views" View.codec,
      .listed "type_defns" TypeDefinition.codec,
      .listed "functions" StoredFunction.codec,
      .listed "procedures" StoredProcedure.codec,
      .listed "content" ContentGroup.codec]
    (fun (name, schema, extensions, tables, views, types, functions, procedures, content, ()) =>
      ⟨name, schema, extensions, tables, views, types, functions, procedures, content⟩)
    (fun model =>
      (model.name, model.schema, model.extensions, model.tables, model.views, model.types,
        model.functions, model.procedures, model.content, ()))

/-- Reads a model from JSON text. -/
def ofText (text : String) : Result Model :=
  Document.readAll codec.read text

end Model

end SchemaCompiler
