import SchemaCompiler.Model.Column

/-!
# Entities

Tables, views and composite types are entities: they have a logical name and columns. Where names
repeat, the first entity or column of a name is the one that is meant.
-/

namespace SchemaCompiler

open Json

/-- Something with a logical name and columns. -/
structure Entity where
  /-- The logical name. -/
  name : String
  /-- The columns in order. -/
  columns : List Column := []
  deriving BEq, Inhabited

namespace Entity

/-- The first column that identifies rows. -/
def primaryKey? (entity : Entity) : Option Column :=
  entity.columns.find? (·.primaryKey)

/-- The first column of the given name. -/
def column? (entity : Entity) (name : String) : Option Column :=
  entity.columns.find? (·.name == name)

/-- The name of a column together with that of its entity. -/
def qualified (entity : Entity) (column : Column) : String :=
  entity.name ++ "." ++ column.name

end Entity

/-- A collection that other rows form by referring to a table. -/
structure BackReference where
  /-- The name of the collection. -/
  name : String
  /-- The entity of the rows in it. -/
  fromEntity : String
  deriving BEq, Inhabited

namespace BackReference

/-- Back references as records. -/
def codec : Codec BackReference :=
  Codec.record "BackReference"
    [.required "name" .text, .required "from_entity" .text]
    (fun (name, fromEntity, ()) => ⟨name, fromEntity⟩)
    (fun reference => (reference.name, reference.fromEntity, ()))

end BackReference

/-- A table. -/
structure Table extends Entity where
  /-- Whether the rows are the values of an enumeration. -/
  enumeration : Bool := false
  /-- The collections of rows that refer to the table. -/
  backReferences : List BackReference := []
  deriving BEq, Inhabited

namespace Table

/-- Tables as records. -/
def codec : Codec Table :=
  Codec.record "Table"
    [.required "entity" .text,
      .defaulted "enumeration" .boolean false,
      .required "columns" (.list Column.codec),
      .listed "back_refs" BackReference.codec]
    (fun (name, enumeration, columns, backReferences, ()) =>
      ⟨⟨name, columns⟩, enumeration, backReferences⟩)
    (fun table => (table.name, table.enumeration, table.columns, table.backReferences, ()))

end Table

namespace Column

/-- The column that a column of a table refers to. A self reference leads to the primary key of the
table, and nowhere if the table has none. -/
def target? (column : Column) (table : Entity) : Option ColumnRef :=
  match column.kind with
  | .relationship target => some target
  | .selfReference => table.primaryKey?.map fun key => ⟨table.name, key.name⟩
  | _ => none

end Column

/-- What a view selects. -/
inductive ViewQuery
  /-- The query of a view whose definition is generated. -/
  | body (content : String)
  /-- A definition taken as it is. -/
  | statement (content : String)
  deriving DecidableEq, Repr, Inhabited

namespace ViewQuery

/-- View queries as named choices. -/
def codec : Codec ViewQuery where
  read := Codec.readChoice [
    .carrying "body" fun payload => .body <$> Codec.text.read payload,
    .carrying "statement" fun payload => .statement <$> Codec.text.read payload]
  write
    | .body content => .object [("body", .text content)]
    | .statement content => .object [("statement", .text content)]

end ViewQuery

/-- A view. -/
structure View extends Entity where
  /-- What the view selects. -/
  query : ViewQuery
  /-- The artifact that receives the definition, if not the primary one. -/
  persistAs : Option String := none
  deriving BEq, Inhabited

namespace View

/-- Views as records. -/
def codec : Codec View :=
  Codec.record "View"
    [.required "entity" .text,
      .defaulted "columns" (.list Column.codec) [],
      .required "query" ViewQuery.codec,
      .omittable "persist_as" .text]
    (fun (name, columns, query, persistAs, ()) => ⟨⟨name, columns⟩, query, persistAs⟩)
    (fun view => (view.name, view.columns, view.query, view.persistAs, ()))

end View

/-- A composite type. -/
structure TypeDefinition extends Entity where
  /-- The artifact that receives the definition, if not the primary one. -/
  persistAs : Option String := none
  deriving BEq, Inhabited

namespace TypeDefinition

/-- Composite types as records. -/
def codec : Codec TypeDefinition :=
  Codec.record "TypeDefn"
    [.required "entity" .text,
      .required "columns" (.list Column.codec),
      .omittable "persist_as" .text]
    (fun (name, columns, persistAs, ()) => ⟨⟨name, columns⟩, persistAs⟩)
    (fun definition => (definition.name, definition.columns, definition.persistAs, ()))

end TypeDefinition

end SchemaCompiler
