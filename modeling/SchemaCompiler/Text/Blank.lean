import SchemaCompiler.Text.CodeSet

/-!
# Blank characters, words and trimming

Blank is the Unicode property `White_Space`. A word is a maximal run of characters that are not
blank; `trim` removes the blanks at both ends of a text and touches nothing between them.
-/

namespace SchemaCompiler

namespace Text

/-- The characters with the property `White_Space`. -/
def blanks : CodeSet where
  edges := [0x9, 0xE, 0x20, 0x21, 0x85, 0x86, 0xA0, 0xA1, 0x1680, 0x1681, 0x2000, 0x200B, 0x2028,
    0x202A, 0x202F, 0x2030, 0x205F, 0x2060, 0x3000, 0x3001]

/-- Whether a character separates words. -/
def isBlank (character : Char) : Bool :=
  blanks.contains character

/-- The characters of a text without the blanks at its end. -/
def dropBlanksAtEnd (characters : List Char) : List Char :=
  (characters.reverse.dropWhile isBlank).reverse

/-- A text without the blanks at its two ends. -/
def trim (text : String) : String :=
  String.ofList (dropBlanksAtEnd (text.toList.dropWhile isBlank))

/-- The maximal runs of characters that are not blank, in order. -/
def words : List Char → List (List Char)
  | [] => []
  | character :: rest =>
    if isBlank character then
      words rest
    else
      match rest with
      | [] => [[character]]
      | next :: _ =>
        if isBlank next then
          [character] :: words rest
        else
          match words rest with
          | [] => [[character]]
          | word :: later => (character :: word) :: later

end Text

end SchemaCompiler
