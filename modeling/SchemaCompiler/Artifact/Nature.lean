/-!
# Natures of artifacts

The nature of a text artifact says what reads it, and determines the extension of its file.
-/

namespace SchemaCompiler

/-- What a text artifact is written for. -/
inductive ArtifactNature
  | sql
  | postgresql
  | plantUml
  deriving DecidableEq, Repr, Inhabited

namespace ArtifactNature

/-- The name of a nature. -/
def name : ArtifactNature → String
  | .sql => "sql"
  | .postgresql => "postgresql"
  | .plantUml => "plantuml"

/-- The extension of files of a nature. -/
def extension : ArtifactNature → String
  | .sql => "sql"
  | .postgresql => "psql"
  | .plantUml => "puml"

end ArtifactNature

end SchemaCompiler
