/-!
# Letter case of names

Names of dialects, naming strategies and registry keys are compared without regard to the case of
the letters A to Z. All other characters have to be equal.
-/

namespace SchemaCompiler

namespace Text

/-- A text with the letters A to Z in lower case. -/
def asciiLower (text : String) : String :=
  String.ofList (text.toList.map Char.toLower)

/-- Whether two names are equal up to the case of the letters A to Z. -/
def sameName (left right : String) : Bool :=
  left.toList.map Char.toLower == right.toList.map Char.toLower

theorem sameName_iff {left right : String} :
    sameName left right ↔ asciiLower left = asciiLower right := by
  simp [sameName, asciiLower, String.ofList_inj]

end Text

end SchemaCompiler
