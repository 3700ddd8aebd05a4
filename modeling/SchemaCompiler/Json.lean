import SchemaCompiler.Decimal.Notation

/-!
# JSON values and their text

A JSON value keeps the order of its members, and keeps integers apart from floats. Two printers are
given: `compact` without any blanks, and `pretty` with one item a line and two blanks a level. Both
write a float in scientific notation and use `null` for what is not a finite number.
-/

namespace SchemaCompiler

/-- A JSON value. -/
inductive Json
  | null
  | boolean (value : Bool)
  | integer (value : Int)
  | float (value : Float)
  | text (value : String)
  | array (items : List Json)
  | object (members : List (String × Json))
  deriving Inhabited

namespace Json

/-- One character inside a JSON string. -/
def escapedChar (character : Char) : List Char :=
  if character = '"' then ['\\', '"']
  else if character = '\\' then ['\\', '\\']
  else if character = '\n' then ['\\', 'n']
  else if character = '\r' then ['\\', 'r']
  else if character = '\t' then ['\\', 't']
  else if character = '\x08' then ['\\', 'b']
  else if character = '\x0c' then ['\\', 'f']
  else if character.toNat < 0x20 then
    ['\\', 'u', '0', '0', Nat.digitChar (character.toNat / 16),
      Nat.digitChar (character.toNat % 16)]
  else [character]

/-- A text between the quotes of a JSON string. -/
def quotedText (text : String) : String :=
  String.ofList (['"'] ++ text.toList.flatMap escapedChar ++ ['"'])

/-- A float as a JSON number, or `null` if it is none. -/
def floatText (value : Float) : String :=
  ((FloatValue.ofFloat value).scientific?).getD "null"

/-- The text of a value that is neither an array nor an object. -/
def scalarText : Json → String
  | .null | .array _ | .object _ => "null"
  | .boolean value => if value then "true" else "false"
  | .integer value => toString value
  | .float value => floatText value
  | .text value => quotedText value

mutual

/-- The text of a value without blanks. -/
def compact : Json → String
  | .array items => "[" ++ ",".intercalate (compactItems items) ++ "]"
  | .object members => "\x7b" ++ ",".intercalate (compactMembers members) ++ "\x7d"
  | scalar => scalar.scalarText

/-- The texts of the items of an array. -/
def compactItems : List Json → List String
  | [] => []
  | item :: rest => item.compact :: compactItems rest

/-- The texts of the members of an object. -/
def compactMembers : List (String × Json) → List String
  | [] => []
  | (key, value) :: rest => (quotedText key ++ ":" ++ value.compact) :: compactMembers rest

end

/-- A bracketed list with one entry a line, the entries one level deeper than the brackets. -/
def bracketed (opening closing : String) (level : Nat) (entries : List String) : String :=
  if entries.isEmpty then
    opening ++ closing
  else
    let inner := String.ofList (List.replicate (2 * (level + 1)) ' ')
    let outer := String.ofList (List.replicate (2 * level) ' ')
    opening ++ "\n" ++ (",\n").intercalate (entries.map (inner ++ ·)) ++ "\n" ++ outer ++ closing

mutual

/-- The text of a value that starts at the given level of indentation. -/
def prettyAt (level : Nat) : Json → String
  | .array items => bracketed "[" "]" level (prettyItems (level + 1) items)
  | .object members => bracketed "\x7b" "\x7d" level (prettyMembers (level + 1) members)
  | scalar => scalar.scalarText

/-- The texts of the items of an array at the given level. -/
def prettyItems (level : Nat) : List Json → List String
  | [] => []
  | item :: rest => item.prettyAt level :: prettyItems level rest

/-- The texts of the members of an object at the given level. -/
def prettyMembers (level : Nat) : List (String × Json) → List String
  | [] => []
  | (key, value) :: rest =>
    (quotedText key ++ ": " ++ value.prettyAt level) :: prettyMembers level rest

end

/-- The text of a value with one item a line. -/
def pretty (value : Json) : String :=
  value.prettyAt 0

/-- An array of texts. -/
def texts (values : List String) : Json :=
  .array (values.map .text)

/-- A text, or `null`. -/
def textOrNull (value : Option String) : Json :=
  value.elim .null .text

end Json

end SchemaCompiler
