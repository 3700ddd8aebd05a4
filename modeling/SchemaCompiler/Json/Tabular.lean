import SchemaCompiler.Json
import SchemaCompiler.Text.Blank
import SchemaCompiler.Text.Numeral

/-!
# Tabular text of JSON values

A compact notation for reading: indentation in place of braces, the length of every array in its
heading, and one heading for all rows of an array of like objects. Members are ordered by name. A
text is quoted only where it could be taken for something else.
-/

namespace SchemaCompiler

namespace Json

namespace Tabular

/-! ## Scalars -/

/-- Characters that have a meaning of their own in tabular text. -/
def isMark (character : Char) : Bool :=
  [':', '"', '\\', '[', ']', '\x7b', '\x7d', ',', '\n', '\r', '\t'].contains character

/-- Whether a text has to stand between quotes. -/
def needsQuotes (text : String) : Bool :=
  text.isEmpty || text == "true" || text == "false" || text == "null"
    || Text.trim text != text
    || Text.isNumeral text.toList
    || text.toList.any isMark
    || text.startsWith "- "

/-- One character between quotes. -/
def escapedChar (character : Char) : List Char :=
  if character = '\\' then ['\\', '\\']
  else if character = '"' then ['\\', '"']
  else if character = '\n' then ['\\', 'n']
  else if character = '\r' then ['\\', 'r']
  else if character = '\t' then ['\\', 't']
  else [character]

/-- A text, quoted if it has to be. -/
def scalarOfText (text : String) : String :=
  if needsQuotes text then
    String.ofList (['"'] ++ text.toList.flatMap escapedChar ++ ['"'])
  else
    text

/-- A number. Integers are shown as the nearest float. -/
def scalarOfFloat (value : Float) : String :=
  if value == 0 then "0" else plainFloat value

/-- The text of a value that is neither an array nor an object. -/
def scalar? : Json → Option String
  | .null => some "null"
  | .boolean value => some (if value then "true" else "false")
  | .integer value => some (scalarOfFloat (Float.ofInt value))
  | .float value => some (scalarOfFloat value)
  | .text value => some (scalarOfText value)
  | .array _ | .object _ => none

/-! ## Order of members -/

/-- Puts a member before the first one of a later name. -/
def insertMember (key : String) (value : Json) :
    List (String × Json) → List (String × Json)
  | [] => [(key, value)]
  | (otherKey, otherValue) :: rest =>
    if otherKey < key then
      (otherKey, otherValue) :: insertMember key value rest
    else
      (key, value) :: (otherKey, otherValue) :: rest

mutual

/-- A value with the members of all its objects ordered by name. -/
def ordered : Json → Json
  | .array items => .array (orderedItems items)
  | .object members => .object (orderedMembers members)
  | scalar => scalar

/-- Items with the members of all their objects ordered by name. -/
def orderedItems : List Json → List Json
  | [] => []
  | item :: rest => ordered item :: orderedItems rest

/-- Members ordered by name, down to the innermost. -/
def orderedMembers : List (String × Json) → List (String × Json)
  | [] => []
  | (key, value) :: rest => insertMember key (ordered value) (orderedMembers rest)

end

/-! ## Lines -/

/-- Lines one level deeper. -/
def indented (lines : List String) : List String :=
  lines.map ("  " ++ ·)

/-- Lines as one item of a list: a dash before the first line. -/
def asItem : List String → List String
  | [] => ["-"]
  | first :: rest => ("- " ++ first) :: indented rest

/-- The cells of a row, if a value is an object of scalars with the given names. -/
def row? (names : List String) : Json → Option (List String)
  | .object members =>
    if members.map (·.1) == names then members.mapM fun (_, value) => scalar? value else none
  | _ => none

/-- The names and rows of an array of like objects. -/
def table? (items : List Json) : Option (List String × List (List String)) :=
  match items with
  | .object members :: _ => do
    let names := members.map (·.1)
    return (names, ← items.mapM (row? names))
  | _ => none

/-- The length of an array in its heading. -/
def lengthMark (items : List Json) : String :=
  "[" ++ toString items.length ++ "]"

mutual

/-- The lines of a value under a name. -/
def lines (name : String) : Json → List String
  | .object members => (name ++ ":") :: indented (memberLines members)
  | .array items =>
    let heading := name ++ lengthMark items
    match items.mapM scalar?, table? items with
    | some [], _ => [heading ++ ":"]
    | some cells, _ => [heading ++ ": " ++ ",".intercalate cells]
    | none, some (names, rows) =>
      (heading ++ "\x7b" ++ ",".intercalate names ++ "\x7d:")
        :: indented (rows.map (",".intercalate ·))
    | none, none => (heading ++ ":") :: indented (itemLines items)
  | scalar => [name ++ ": " ++ (scalar? scalar).getD ""]

/-- The lines of the members of an object. -/
def memberLines : List (String × Json) → List String
  | [] => []
  | (name, value) :: rest => lines name value ++ memberLines rest

/-- The lines of the items of an array that has no table. -/
def itemLines : List Json → List String
  | [] => []
  | .object members :: rest => asItem (memberLines members) ++ itemLines rest
  | .array items :: rest => asItem (lines "" (.array items)) ++ itemLines rest
  | scalar :: rest => asItem [(scalar? scalar).getD ""] ++ itemLines rest

end

end Tabular

/-- The tabular text of a value. -/
def tabular (value : Json) : String :=
  match Tabular.ordered value with
  | .object members => "\n".intercalate (Tabular.memberLines members)
  | .array items => "\n".intercalate (Tabular.lines "" (.array items))
  | scalar => (Tabular.scalar? scalar).getD ""

end Json

end SchemaCompiler
