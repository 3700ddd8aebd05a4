import SchemaCompiler.Artifact.Directory
import SchemaCompiler.Artifact.Memory
import SchemaCompiler.Compilation
import SchemaCompiler.Diagram
import SchemaCompiler.Report.Catalog
import SchemaCompiler.Report.Drawing
import SchemaCompiler.Report.Generation
import SchemaCompiler.Settings

/-!
# Commands

The commands of the program: generating the artifacts of a model, drawing a model, and listing the
dialects. A command that reads a model does so before it settles its settings, so that a bad model
is reported first.
-/

namespace SchemaCompiler

/-- What is asked of a run that generates artifacts. -/
structure GenerateRequest where
  /-- The path of the model. -/
  model : String
  /-- The settings that take precedence. -/
  overrides : Overrides := {}
  deriving DecidableEq, Repr

/-- What is asked of a run that draws a model. -/
structure DrawRequest where
  /-- The path of the model. -/
  model : String
  /-- The settings that take precedence. -/
  overrides : Overrides := {}
  /-- Whether everything is drawn. -/
  everything : Bool := false
  deriving DecidableEq, Repr

/-- A command of the program. -/
inductive Command
  | generate (request : GenerateRequest)
  | draw (request : DrawRequest)
  | catalog
  /-- A word that names no command. -/
  | unknown (name : String)
  deriving DecidableEq, Repr

namespace Model

/-- Loads the model at a path. -/
def load {m : Type → Type} [Monad m] [FileSystem m] (path : String) :
    ExceptT RunError m Model := do
  let content ← ExceptT.adapt (.modelRead path) (ExceptT.mk (FileSystem.readText path))
  MonadExcept.ofExcept ((ofText content).mapError .modelFormat)

end Model

namespace DirectoryStore

/-- Runs something that writes artifacts to a directory. -/
def run {m : Type → Type} [Monad m] {α : Type} (action : DirectoryRun m α) (root : String) :
    ExceptT RunError m α :=
  ExceptT.mk do return (← action.run.run ⟨root, []⟩).1

end DirectoryStore

namespace Compilation

/-- Persists all artifacts of the model, and the driver script where it is wanted. -/
def persistWithDriver {m : Type → Type} [Monad m] [ArtifactSink m] (compilation : Compilation)
    (driverScript : Bool) : m Outcome := do
  let outcome ← compilation.persist
  if driverScript then
    discard (DriverScript.persist compilation.opening)
    return { outcome with results := ← ArtifactSink.results }
  else
    return outcome

end Compilation

/-! ## Running commands -/

section

variable {m : Type → Type} [Monad m] [FileSystem m]

namespace GenerateRequest

/-- The report on an outcome. -/
def report (model : Model) (output : String) (texts : List (String × String))
    (outcome : Compilation.Outcome) : GenerationReport where
  model := model.name
  dialect := outcome.dialect
  naming := outcome.naming
  output := output
  artifacts := outcome.results
  diagnostics := outcome.diagnostics
  texts := texts

/-- Generates the artifacts of a model. -/
def run (request : GenerateRequest) (file : SettingsFile) (environment : Environment) :
    ExceptT RunError m GenerationReport := do
  let model ← Model.load request.model
  let settings ← MonadExcept.ofExcept (file.resolve request.overrides environment)
  let compilation : Compilation := { dialect := settings.dialect, model := model }
  match settings.output with
  | .standardOutput =>
    let (outcome, store) :=
      (compilation.persistWithDriver settings.driverScript : StateM MemoryStore _).run {}
    let texts := store.artifacts.map fun (name, artifact) => (name, artifact.text)
    return report model "stdout" texts outcome
  | .directory path =>
    let outcome ← DirectoryStore.run (compilation.persistWithDriver settings.driverScript) path
    return report model path [] outcome

end GenerateRequest

namespace DrawRequest

/-- What is drawn for a request. -/
def filter (request : DrawRequest) : DiagramFilter :=
  if request.everything then .everything else {}

/-- The report on a diagram. -/
def report (model : Model) (settings : Settings) (drawn : Generated PersistResult)
    (text : Option String) : DrawingReport where
  model := model.name
  dialect := settings.dialect.name
  artifact := drawn.value
  diagnostics := drawn.diagnostics
  text := text

/-- Draws a model. -/
def run (request : DrawRequest) (file : SettingsFile) (environment : Environment) :
    ExceptT RunError m DrawingReport := do
  let model ← Model.load request.model
  let settings ← MonadExcept.ofExcept (file.resolve request.overrides environment)
  let diagram : Diagram :=
    { scope := settings.dialect.scope model, filter := request.filter }
  match settings.output with
  | .standardOutput =>
    let (drawn, store) := (diagram.persist "" : StateM MemoryStore _).run {}
    return report model settings drawn (store.text? model.name)
  | .directory path =>
    let drawn ← DirectoryStore.run (diagram.persist "") path
    return report model settings drawn none

end DrawRequest

namespace Catalog

/-- The catalog with the dialect of the settings. -/
def ofSettings (file : SettingsFile) (environment : Environment) : Except RunError Catalog := do
  let settings ← file.resolve {} environment
  return { selected := settings.dialect.name }

end Catalog

namespace Command

/-- Runs a command and gives its report in a format. -/
def run (command : Command) (file : SettingsFile) (environment : Environment)
    (format : ReportFormat) : ExceptT RunError m String :=
  match command with
  | .generate request => do return Report.format (← request.run file environment) format
  | .draw request => do return Report.format (← request.run file environment) format
  | .catalog => do
    let catalog ← MonadExcept.ofExcept (Catalog.ofSettings file environment)
    return Report.format catalog format
  | .unknown name => throw (.unknownCommand name)

end Command

end

end SchemaCompiler
