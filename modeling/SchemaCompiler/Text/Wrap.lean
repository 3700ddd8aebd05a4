import SchemaCompiler.Text.Blank

/-!
# Filling lines with words

`wrap` breaks a text into lines of whole words. Lines are filled greedily: a word starts a new line
only when the current line could not take it within the width. Widths count UTF-8 bytes, and a word
wider than the width stands on a line of its own.
-/

namespace SchemaCompiler

namespace Text

/-- Divides words into lines, the first of which already holds `current`. -/
def fillFrom (width : Nat) (current : String) : List String → List String
  | [] => [current]
  | word :: rest =>
    if current.utf8ByteSize + 1 + word.utf8ByteSize > width then
      current :: fillFrom width word rest
    else
      fillFrom width (current ++ " " ++ word) rest

/-- Divides words into lines of at most `width` bytes, or of one word each. -/
def fill (width : Nat) : List String → List String
  | [] => []
  | word :: rest => fillFrom width word rest

/-- The words of a text, rearranged into lines that are joined by `newline`. -/
def wrap (text : String) (width : Nat) (newline : String) : String :=
  newline.intercalate (fill width ((words text.toList).map String.ofList))

end Text

end SchemaCompiler
