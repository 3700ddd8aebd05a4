/-!
# Quoted literals

A literal stands between single quotes, with every quote inside it written twice. The character NUL
has no place in a literal and is left out. Comments and other escapes mean nothing inside one.
-/

namespace SchemaCompiler

namespace Text

/-- The characters that stand for one character inside a literal. -/
def escapedInLiteral (character : Char) : List Char :=
  if character = '\'' then ['\'', '\'']
  else if character = '\x00' then []
  else [character]

/-- The inside of a literal for the given text. -/
def escaped (text : String) : String :=
  String.ofList (text.toList.flatMap escapedInLiteral)

/-- A text as a quoted literal. -/
def quoted (text : String) : String :=
  "'" ++ escaped text ++ "'"

end Text

end SchemaCompiler
