import SchemaCompiler.Text.Cluster
import SchemaCompiler.Text.LetterCase

/-!
# Spellings of compound names

A logical name such as `AuthorStats`, `author_stats` or `author-stats2` is divided into parts, which
are then spelled in one of four styles. A part ends at a separator, which is dropped, where the case
changes from lower to upper, where a letter meets a digit, and before the last capital of an
acronym. Empty parts are kept, so the separators at the ends of a name survive as underscores.
-/

namespace SchemaCompiler

/-- How the parts of a compound name are written. -/
inductive Spelling
  /-- `author_stats` -/
  | snake
  /-- `AUTHOR_STATS` -/
  | upperSnake
  /-- `authorStats` -/
  | camel
  /-- `AuthorStats` -/
  | pascal
  deriving DecidableEq, Repr

namespace Spelling

open Text

/-- Whether a cluster only separates parts. -/
def isSeparator (cluster : List Char) : Bool :=
  cluster == ['_'] || cluster == ['-'] || cluster == [' ']

/-- Whether a cluster is a letter with case, in upper case. -/
def isUpper (cluster : List Char) : Bool :=
  upper cluster != lower cluster && cluster == upper cluster

/-- Whether a cluster is a letter with case, in lower case. -/
def isLower (cluster : List Char) : Bool :=
  upper cluster != lower cluster && cluster == lower cluster

/-- Whether a cluster is a plain digit. -/
def isDigit (cluster : List Char) : Bool :=
  cluster.all Char.isDigit

/-- Whether a part ends after `cluster`, which stands before the clusters `rest`. -/
def endsPart (cluster : List Char) (rest : List (List Char)) : Bool :=
  match rest with
  | [] => false
  | next :: later =>
    isLower cluster && isUpper next
      || isLower cluster && isDigit next
      || isUpper cluster && isDigit next
      || isDigit cluster && isLower next
      || isDigit cluster && isUpper next
      || isUpper cluster && isUpper next && (later.head?.any isLower)

/-- Divides clusters into the parts of a name. -/
def divide : List (List Char) → List (List Char)
  | [] => [[]]
  | cluster :: rest =>
    if isSeparator cluster then
      [] :: divide rest
    else if endsPart cluster rest then
      cluster :: divide rest
    else
      match divide rest with
      | [] => [cluster]
      | part :: later => (cluster ++ part) :: later

/-- The parts of a name. -/
def parts (name : String) : List (List Char) :=
  divide (clusters name.toList)

/-- A part with its first character in upper case and the others in lower case. -/
def capitalized : List Char → List Char
  | [] => []
  | first :: rest => LetterCase.upperForm first ++ lower rest

/-- A name in the given style. -/
def apply (spelling : Spelling) (name : String) : String :=
  match spelling with
  | .snake => String.ofList (['_'].intercalate ((parts name).map lower))
  | .upperSnake => String.ofList (['_'].intercalate ((parts name).map upper))
  | .camel =>
    match parts name with
    | [] => ""
    | first :: rest => String.ofList (lower first ++ rest.flatMap capitalized)
  | .pascal => String.ofList ((parts name).flatMap capitalized)

end Spelling

end SchemaCompiler
