import SchemaCompiler.Artifact.Plan
import SchemaCompiler.Content.Script

/-!
# Compiling a model

All artifacts of a model under a dialect. The definitions of tables make up the primary artifact.
Everything else goes to the artifact that it names, or to the primary one, and is appended there
after a line end. What a dialect does not know how to define is left out. A driver script can follow
that includes every artifact in turn.
-/

namespace SchemaCompiler

/-- How the artifacts of a run are made and named. -/
structure Compilation where
  /-- The dialect. -/
  dialect : Dialect
  /-- The model. -/
  model : Model
  /-- The name of the primary artifact. -/
  primary : String := model.name
  /-- The text with which every artifact starts. -/
  opening : String := ""

namespace Compilation

/-- The name of the artifact for something that may name one. -/
def artifactName (compilation : Compilation) (persistAs : Option String) : String :=
  persistAs.getD compilation.primary

/-- The model seen through the dialect. -/
def scope (compilation : Compilation) : Scope :=
  compilation.dialect.scope compilation.model

/-- An artifact that is appended to what its name has already. -/
def planned (compilation : Compilation) (bucket : Bucket) (persistAs : Option String)
    (text : String) : PlannedArtifact where
  bucket := bucket
  name := compilation.artifactName persistAs
  artifact := ⟨compilation.dialect.nature, compilation.opening ++ text⟩
  mode := .append "\n"

/-- The artifacts of things that the dialect may be unable to define. -/
def definedBy {α : Type} (compilation : Compilation) (bucket : Bucket)
    (define? : Option (Scope → α → Generated String)) (persistAs : α → Option String)
    (things : List α) : Generated (List PlannedArtifact) :=
  match define? with
  | none => pure []
  | some define =>
    Generated.each
      (fun thing => compilation.planned bucket (persistAs thing) <$> define compilation.scope thing)
      things

/-- The artifact with the definitions of the tables. -/
def main (compilation : Compilation) : Generated PlannedArtifact :=
  compilation.planned .main none <$> compilation.scope.modelDefinition

/-- The artifact that loads extensions, if there are any. -/
def extensions (compilation : Compilation) : List PlannedArtifact :=
  ((compilation.dialect.extensionStatements compilation.scope).map
    (compilation.planned .beforeStructs none)).toList

/-- The artifacts of the views. -/
def views (compilation : Compilation) : List PlannedArtifact :=
  compilation.model.views.map fun view =>
    compilation.planned .views view.persistAs (compilation.scope.viewDefinition view)

/-- The artifacts of the composite types. -/
def types (compilation : Compilation) : Generated (List PlannedArtifact) :=
  compilation.definedBy .types compilation.dialect.typeDefinition? (·.persistAs)
    compilation.model.types

/-- The artifacts of the functions. -/
def functions (compilation : Compilation) : Generated (List PlannedArtifact) :=
  compilation.definedBy .storedFunctions compilation.dialect.functionDefinition? (·.persistAs)
    compilation.model.functions

/-- The artifacts of the procedures. -/
def procedures (compilation : Compilation) : Generated (List PlannedArtifact) :=
  compilation.definedBy .storedProcedures compilation.dialect.procedureDefinition? (·.persistAs)
    compilation.model.procedures

/-- The artifacts of the content groups. -/
def content (compilation : Compilation) : Generated (List PlannedArtifact) :=
  (·.map fun script => compilation.planned .content script.persistAs script.sql)
    <$> compilation.dialect.contentScripts compilation.model

/-- The plan of all artifacts. -/
def plan (compilation : Compilation) : Generated Plan := do
  let main ← compilation.main
  let types ← compilation.types
  let functions ← compilation.functions
  let procedures ← compilation.procedures
  let content ← compilation.content
  return Plan.pushAll ⟨main, []⟩
    (compilation.extensions ++ compilation.views ++ types ++ functions ++ procedures ++ content)

/-- What a run did. -/
structure Outcome where
  /-- The name of the dialect. -/
  dialect : String
  /-- The name of the naming strategy. -/
  naming : String
  /-- The name of the primary artifact. -/
  primary : String
  /-- What the sink holds. -/
  results : List PersistResult
  /-- What could not be generated. -/
  diagnostics : List Diagnostic
  deriving DecidableEq, Repr

variable {m : Type → Type} [Monad m] [ArtifactSink m]

/-- Persists all artifacts of the model. -/
def persist (compilation : Compilation) : m Outcome := do
  let generated := compilation.plan
  discard generated.value.persistAll
  return {
    dialect := compilation.dialect.name
    naming := compilation.dialect.naming.name
    primary := compilation.primary
    results := ← ArtifactSink.results
    diagnostics := generated.diagnostics }

end Compilation

/-! ## The driver script -/

namespace DriverScript

/-- The logical name of the driver script. -/
def name : String := "driver"

/-- The line that includes a file. -/
def includeLine (physicalName : String) : String :=
  "\\include " ++ physicalName ++ "\n"

/-- A script that includes the files of all results in turn. -/
def artifact (opening : String) (results : List PersistResult) : TextArtifact :=
  ⟨.postgresql, opening ++ String.join (results.map fun result => includeLine result.physicalName)⟩

/-- Persists the script for everything that was persisted before. -/
def persist {m : Type → Type} [Monad m] [ArtifactSink m] (opening : String) :
    m PersistResult := do
  let results ← ArtifactSink.results
  ArtifactSink.persist name (artifact opening results) .replace

end DriverScript

end SchemaCompiler
