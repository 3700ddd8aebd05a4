import SchemaCompiler.Text.Cluster.Property
import SchemaCompiler.Text.Displayed.Property

/-!
# Displayed text

A text shown inside a message stands between double quotes, with every character that could not be
seen there written as an escape: tabs, line ends and NUL by name, marks that would attach to the
character before them and characters without a shape by their code point.
-/

namespace SchemaCompiler

namespace Text

/-- A code point in hexadecimal, between braces. -/
def displayedPoint (character : Char) : List Char :=
  ['\\', 'u', '\x7b'] ++ Nat.toDigits 16 character.toNat ++ ['\x7d']

/-- How one character is shown. -/
def displayedChar (character : Char) : List Char :=
  if character = '\x00' then ['\\', '0']
  else if character = '\t' then ['\\', 't']
  else if character = '\r' then ['\\', 'r']
  else if character = '\n' then ['\\', 'n']
  else if character = '\\' then ['\\', '\\']
  else if character = '"' then ['\\', '"']
  else if Cluster.extenders.contains character then displayedPoint character
  else if Displayed.shapeless.contains character then displayedPoint character
  else [character]

/-- A text as it is shown inside a message. -/
def displayed (text : String) : String :=
  String.ofList (['"'] ++ text.toList.flatMap displayedChar ++ ['"'])

end Text

end SchemaCompiler
