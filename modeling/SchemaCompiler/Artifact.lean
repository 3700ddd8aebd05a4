import SchemaCompiler.Artifact.Nature

/-!
# Text artifacts

An artifact is a text with a nature, and is persisted under a logical name. A name can be persisted
more than once: a later text replaces the earlier one or is appended to it. A sink is where
artifacts are persisted; it tells what it holds, in the order in which the names first came up.
-/

namespace SchemaCompiler

/-- A text, and what it is written for. -/
structure TextArtifact where
  /-- What the text is written for. -/
  nature : ArtifactNature
  /-- The text. -/
  text : String
  deriving DecidableEq, Repr

namespace TextArtifact

/-- Whether there is no text. -/
def isEmpty (artifact : TextArtifact) : Bool :=
  artifact.text.isEmpty

/-- The name of the file of an artifact. -/
def fileName (artifact : TextArtifact) (name : String) : String :=
  name ++ "." ++ artifact.nature.extension

end TextArtifact

/-- What becomes of the text that was persisted under the same name before. -/
inductive PersistMode
  /-- It is replaced. -/
  | replace
  /-- It stays, and the delimiter and the new text follow it. -/
  | append (delimiter : String)
  deriving DecidableEq, Repr

namespace PersistMode

/-- The text under a name after a text is persisted. -/
def combine (mode : PersistMode) (earlier : Option String) (text : String) : String :=
  match earlier, mode with
  | some earlier, .append delimiter => earlier ++ delimiter ++ text
  | _, _ => text

end PersistMode

/-- What a sink holds under a name. -/
structure PersistResult where
  /-- The name under which the artifact was persisted. -/
  logicalName : String
  /-- The name of its file. -/
  physicalName : String
  /-- The size of the whole text in bytes. -/
  bytes : Nat
  deriving DecidableEq, Repr

namespace PersistResult

/-- Puts a result in the place of the one of its name, or at the end. -/
def record (result : PersistResult) : List PersistResult → List PersistResult
  | [] => [result]
  | other :: rest =>
    if other.logicalName = result.logicalName then
      result :: rest
    else
      other :: record result rest

end PersistResult

/-- A monad in which artifacts can be persisted. -/
class ArtifactSink (m : Type → Type) where
  /-- Persists an artifact under a logical name. -/
  persist : String → TextArtifact → PersistMode → m PersistResult
  /-- What is held under each name, in the order in which the names first came up. -/
  results : m (List PersistResult)

end SchemaCompiler
