import SchemaCompiler.Model.Value

/-!
# Content

Content is given in groups of rows. A row names an entity, which may be a table or a procedure, and
gives values for its attributes. A value that failed validation carries the reason instead. Rows can
be limited to some engines.
-/

namespace SchemaCompiler

open Json

/-- The value of an attribute in a row. -/
structure AttributeValue where
  /-- The name of the attribute. -/
  name : String
  /-- Its value. -/
  value : Value
  /-- Why the value is not valid, if it is not. -/
  error : Option String := none
  deriving BEq, Inhabited

namespace AttributeValue

/-- A valid value. -/
def valid (name : String) (value : Value) : AttributeValue :=
  ⟨name, value, none⟩

/-- A value that failed validation. -/
def invalid (name error : String) : AttributeValue :=
  ⟨name, .null, some error⟩

/-- Whether a value passed validation. -/
def isValid (value : AttributeValue) : Bool :=
  value.error.isNone

/-- Attribute values as records. -/
def codec : Codec AttributeValue :=
  Codec.record "AttrValue"
    [.required "attr" .text, .required "value" Value.codec, .omittable "error" .text]
    (fun (name, value, error, ()) => ⟨name, value, error⟩)
    (fun value => (value.name, value.value, value.error, ()))

end AttributeValue

/-- A row of content. -/
structure ContentRow where
  /-- The entity of the row. -/
  entity : String
  /-- The values in order. -/
  values : List AttributeValue := []
  /-- The engines that the row is meant for, if not all. -/
  engines : Option (List String) := none
  deriving BEq, Inhabited

namespace ContentRow

/-- Whether a row is meant for an engine that answers to some names. -/
def isCompatible (row : ContentRow) (answersTo : String → Bool) : Bool :=
  match row.engines with
  | none => true
  | some engines => engines.any answersTo

/-- Rows as records. -/
def codec : Codec ContentRow :=
  Codec.record "ContentRow"
    [.required "entity" .text,
      .required "values" (.list AttributeValue.codec),
      .omittable "engines" (.list .text)]
    (fun (entity, values, engines, ()) => ⟨entity, values, engines⟩)
    (fun row => (row.entity, row.values, row.engines, ()))

end ContentRow

/-- Rows that are generated together. -/
structure ContentGroup where
  /-- The artifact that receives the statements, if not the primary one. -/
  persistAs : Option String := none
  /-- The rows in order. -/
  rows : List ContentRow := []
  deriving BEq, Inhabited

namespace ContentGroup

/-- Groups as records. -/
def codec : Codec ContentGroup :=
  Codec.record "ContentGroup"
    [.omittable "persist_as" .text, .required "rows" (.list ContentRow.codec)]
    (fun (persistAs, rows, ()) => ⟨persistAs, rows⟩)
    (fun group => (group.persistAs, group.rows, ()))

end ContentGroup

end SchemaCompiler
