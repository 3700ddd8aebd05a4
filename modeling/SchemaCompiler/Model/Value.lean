import SchemaCompiler.Json.Codec

/-!
# Content values

The values that content rows and column suppliers hold. Texts and identities become quoted literals,
fragments of SQL are taken as they are, and an enumeration value stands for its code.
-/

namespace SchemaCompiler

/-- A value that a row stores in a column or passes to a procedure. -/
inductive Value
  | text (content : String)
  | integer (number : Int)
  | float (number : Float)
  | boolean (truth : Bool)
  | null
  | identity (key : String)
  | enumeration (code : Int)
  /-- A fragment of SQL. -/
  | sql (fragment : String)
  deriving BEq, Inhabited

namespace Value

open Json

/-- Values as named choices; `null` is a bare name. -/
def codec : Codec Value where
  read := Codec.readChoice [
    .carrying "text" fun payload => .text <$> Codec.text.read payload,
    .carrying "integer" fun payload => .integer <$> Codec.signed64.read payload,
    .carrying "float" fun payload => .float <$> Codec.float.read payload,
    .carrying "boolean" fun payload => .boolean <$> Codec.boolean.read payload,
    .bare "null" .null,
    .carrying "identity" fun payload => .identity <$> Codec.text.read payload,
    .carrying "enumeration" fun payload => .enumeration <$> Codec.signed64.read payload,
    .carrying "sql" fun payload => .sql <$> Codec.text.read payload]
  write
    | .text content => .object [("text", .text content)]
    | .integer number => .object [("integer", .integer number)]
    | .float number => .object [("float", .float number)]
    | .boolean truth => .object [("boolean", .boolean truth)]
    | .null => .text "null"
    | .identity key => .object [("identity", .text key)]
    | .enumeration code => .object [("enumeration", .integer code)]
    | .sql fragment => .object [("sql", .text fragment)]

end Value

end SchemaCompiler
