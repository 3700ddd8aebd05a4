import SchemaCompiler.Model.Value

/-!
# Attributes and columns

A column is a named attribute with its constraints. The kind of the attribute decides how the column
is defined; its type is looked up under the registry key of the kind, and under further keys that
the column may carry. A column can refer to a column of another table, or to its own table.
-/

namespace SchemaCompiler

open Json

/-- The address of a column. -/
structure ColumnRef where
  /-- The entity of its table. -/
  table : String
  /-- The name of the attribute. -/
  column : String
  deriving DecidableEq, Repr

namespace ColumnRef

/-- Addresses are part of attribute kinds, which are read as a whole. -/
def codec : Codec ColumnRef :=
  Codec.innerRecord "ColumnRef"
    [.required "table" .text, .required "column" .text]
    (fun (table, column, ()) => ⟨table, column⟩)
    (fun address => (address.table, address.column, ()))

end ColumnRef

/-- What an attribute holds. -/
inductive AttributeKind
  | integer
  | nativeIdentity
  | numericIdentity
  | textIdentity (maxLength : Nat)
  | text (maxLength : Nat)
  | encryptedText (maxLength : Nat)
  | uuid
  | date
  | time
  | dateTime
  /-- Refers to the primary key of its own table. -/
  | selfReference
  | relationship (target : ColumnRef)
  | boolean
  | json
  | jsonb
  deriving DecidableEq, Repr, Inhabited

namespace AttributeKind

/-- The name of a kind in registry keys and messages. -/
def label : AttributeKind → String
  | .integer => "Integer"
  | .nativeIdentity => "AutoIdentityNative"
  | .numericIdentity => "NumericIdentity"
  | .textIdentity _ => "TextIdentity"
  | .text _ => "Text"
  | .encryptedText _ => "EncryptedText"
  | .uuid => "UuidText"
  | .date => "Date"
  | .time => "Time"
  | .dateTime => "DateTime"
  | .selfReference => "SelfReference"
  | .relationship _ => "Relationship"
  | .boolean => "Boolean"
  | .json => "Json"
  | .jsonb => "Jsonb"

/-- The key under which the type of a kind is registered. -/
def registryKey (kind : AttributeKind) : String :=
  "attr." ++ kind.label

/-- The greatest length of a text, where the kind sets one. -/
def maxLength? : AttributeKind → Option Nat
  | .textIdentity maxLength | .text maxLength | .encryptedText maxLength => some maxLength
  | _ => none

/-- Whether a kind identifies rows. -/
def isIdentity : AttributeKind → Bool
  | .nativeIdentity | .numericIdentity | .textIdentity _ => true
  | _ => false

/-- Whether a kind holds a point in time. -/
def isTemporal : AttributeKind → Bool
  | .date | .time | .dateTime => true
  | _ => false

/-- The field of the kinds that bound their texts. -/
abbrev maxLengthField : Codec.Field :=
  .required "max_length" .unsigned32

/-- A kind without fields, as an alternative of the choice. -/
def plain (kind : AttributeKind) (name : String) : Codec.Tagged AttributeKind :=
  Codec.tagged "AttributeKind" kind.label name [] fun () => kind

/-- A kind with a bound, as an alternative of the choice. -/
def bounded (kind : Nat → AttributeKind) (name : String) : Codec.Tagged AttributeKind :=
  Codec.tagged "AttributeKind" (kind 0).label name [maxLengthField] fun (maxLength, ()) =>
    kind maxLength

/-- Kinds as tagged choices. -/
def codec : Codec AttributeKind where
  read := Codec.readTagged "AttributeKind" [
    plain .integer "integer",
    plain .nativeIdentity "auto_identity_native",
    plain .numericIdentity "numeric_identity",
    bounded .textIdentity "text_identity",
    bounded .text "text",
    bounded .encryptedText "encrypted_text",
    plain .uuid "uuid_text",
    plain .date "date",
    plain .time "time",
    plain .dateTime "date_time",
    plain .selfReference "self_reference",
    Codec.tagged "AttributeKind" "Relationship" "relationship"
      [.required "references" ColumnRef.codec] fun (target, ()) => .relationship target,
    plain .boolean "boolean",
    plain .json "json",
    plain .jsonb "jsonb"]
  write
    | .integer => Codec.writeTagged "integer" []
    | .nativeIdentity => Codec.writeTagged "auto_identity_native" []
    | .numericIdentity => Codec.writeTagged "numeric_identity" []
    | .textIdentity maxLength =>
      Codec.writeTagged "text_identity" [("max_length", .integer maxLength)]
    | .text maxLength => Codec.writeTagged "text" [("max_length", .integer maxLength)]
    | .encryptedText maxLength =>
      Codec.writeTagged "encrypted_text" [("max_length", .integer maxLength)]
    | .uuid => Codec.writeTagged "uuid_text" []
    | .date => Codec.writeTagged "date" []
    | .time => Codec.writeTagged "time" []
    | .dateTime => Codec.writeTagged "date_time" []
    | .selfReference => Codec.writeTagged "self_reference" []
    | .relationship target =>
      Codec.writeTagged "relationship" [("references", ColumnRef.codec.write target)]
    | .boolean => Codec.writeTagged "boolean" []
    | .json => Codec.writeTagged "json" []
    | .jsonb => Codec.writeTagged "jsonb" []

end AttributeKind

/-- A named attribute with its constraints. -/
structure Column where
  /-- The name of the attribute. -/
  name : String
  /-- What the attribute holds. -/
  kind : AttributeKind
  /-- Whether the column accepts NULL. -/
  nullable : Bool := false
  /-- Whether the column identifies the rows of its table. -/
  primaryKey : Bool := false
  /-- Whether a temporal column defaults to the current time. -/
  defaultsToNow : Bool := false
  /-- Whether a boolean column defaults to false. -/
  defaultsToFalse : Bool := false
  /-- What rows store that do not mention the column. -/
  supplier : Option Value := none
  /-- Whether the column takes over the name of the identity it refers to. -/
  derivedFromIdentity : Bool := false
  /-- Further registry keys under which its type may be found. -/
  furtherKeys : List String := []
  deriving BEq, Inhabited

namespace Column

/-- The registry keys of a column: that of its kind first. -/
def registryKeys (column : Column) : List String :=
  column.kind.registryKey :: column.furtherKeys

/-- Columns as records. -/
def codec : Codec Column :=
  Codec.record "Column"
    [.required "name" .text,
      .required "kind" AttributeKind.codec,
      .defaulted "nullable" .boolean false,
      .defaulted "primary_key" .boolean false,
      .defaulted "default_to_now" .boolean false,
      .defaulted "default_boolean" .boolean false,
      .omittable "value_supplier" Value.codec,
      .defaulted "derived_from_identity" .boolean false,
      .listed "registry_keys" .text]
    (fun (name, kind, nullable, primaryKey, toNow, toFalse, supplier, derived, keys, ()) =>
      ⟨name, kind, nullable, primaryKey, toNow, toFalse, supplier, derived, keys⟩)
    (fun column =>
      (column.name, column.kind, column.nullable, column.primaryKey, column.defaultsToNow,
        column.defaultsToFalse, column.supplier, column.derivedFromIdentity, column.furtherKeys,
        ()))

end Column

end SchemaCompiler
