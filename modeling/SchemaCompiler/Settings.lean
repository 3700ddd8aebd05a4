import SchemaCompiler.Dialect.Catalog
import SchemaCompiler.Error
import SchemaCompiler.Json.Codec

/-!
# Settings

What a run needs to know beside its model: the dialect, the naming strategy, the place of the output
and whether a driver script is wanted. Settings come from the command line, from a file and from the
environment, in this order of precedence; what none of them decides has a default.
-/

namespace SchemaCompiler

open Json

/-- Where the artifacts of a run go. -/
inductive OutputTarget
  | directory (path : String)
  | standardOutput
  deriving DecidableEq, Repr

namespace OutputTarget

/-- Output targets as tagged choices. -/
def codec : Codec OutputTarget where
  read := Codec.readTagged "OutputConfig" [
    Codec.tagged "OutputConfig" "Directory" "directory" [.required "path" .path]
      fun (path, ()) => .directory path,
    Codec.tagged "OutputConfig" "Stdout" "stdout" [] fun () => .standardOutput]
  write
    | .directory path => Codec.writeTagged "directory" [("path", .text path)]
    | .standardOutput => Codec.writeTagged "stdout" []

/-- The target named by a variable of the environment. -/
def ofVariable (value : String) : OutputTarget :=
  let name := Text.trim value
  if name == "-" || name == "stdout" then .standardOutput else .directory name

end OutputTarget

/-- The settings that a file gives. -/
structure SettingsFile where
  /-- The name of the dialect. -/
  dialect : Option String := none
  /-- The name of the naming strategy. -/
  naming : Option String := none
  /-- Where the artifacts go. -/
  output : Option OutputTarget := none
  /-- Whether a driver script is wanted. -/
  driverScript : Bool := false
  deriving DecidableEq, Repr

/-- The settings that the command line gives. -/
structure Overrides where
  /-- The name of the dialect. -/
  dialect : Option String := none
  /-- The name of the naming strategy. -/
  naming : Option String := none
  /-- The directory to which the artifacts go. -/
  directory : Option String := none
  /-- Whether a driver script is wanted. -/
  driverScript : Bool := false
  deriving DecidableEq, Repr

/-- The variables of the environment. -/
abbrev Environment := String → Option String

namespace Environment

/-- The variable with the name of the dialect. -/
def dialectVariable : String := "SCHEMA_FORGE_DIALECT"

/-- The variable with the place of the output. -/
def outputVariable : String := "SCHEMA_FORGE_OUTPUT"

end Environment

/-- The settings of a run. -/
structure Settings where
  /-- The dialect, with its naming strategy. -/
  dialect : Dialect
  /-- Where the artifacts go. -/
  output : OutputTarget
  /-- Whether a driver script is wanted. -/
  driverScript : Bool

namespace SettingsFile

/-- Files of settings as records. -/
def codec : Codec SettingsFile :=
  Codec.record "ConfigFile"
    [.omittable "dialect" .text,
      .omittable "naming" .text,
      .omittable "output" OutputTarget.codec,
      .defaulted "driver_script" .boolean false]
    (fun (dialect, naming, output, driverScript, ()) => ⟨dialect, naming, output, driverScript⟩)
    (fun file => (file.dialect, file.naming, file.output, file.driverScript, ()))

/-- Reads settings from JSON text. -/
def ofText (text : String) : Result SettingsFile :=
  Document.readAll codec.read text

/-! ## Finding the file -/

/-- The file that is used when no other one is named. -/
def defaultPath : String := ".schema_forge.json"

variable {m : Type → Type} [Monad m] [FileSystem m]

/-- Loads the file at a path. -/
def load (path : String) : ExceptT RunError m SettingsFile := do
  let content ← ExceptT.adapt (.settingsRead path) (ExceptT.mk (FileSystem.readText path))
  MonadExcept.ofExcept ((ofText content).mapError (.settingsFormat path))

/-- Loads the file that is named, or else the default file if there is one. -/
def discover (named : Option String) : ExceptT RunError m SettingsFile := do
  match named with
  | some path => load path
  | none =>
    if ← (FileSystem.pathExists defaultPath : m Bool) then
      load defaultPath
    else
      return {}

/-! ## Settling the settings -/

/-- The dialect that is used when none is named. -/
def defaultDialect : String := "postgresql"

/-- The dialect of a run, with its own naming strategy. -/
def resolveDialect (file : SettingsFile) (overrides : Overrides) (environment : Environment) :
    Except RunError Dialect :=
  let name :=
    (overrides.dialect <|> file.dialect <|> environment Environment.dialectVariable).getD
      defaultDialect
  match Dialect.named? name with
  | some dialect => .ok dialect
  | none => .error (.unknownDialect name)

/-- A dialect with the naming strategy of a run. -/
def resolveNaming (file : SettingsFile) (overrides : Overrides) (dialect : Dialect) :
    Except RunError Dialect :=
  match overrides.naming <|> file.naming with
  | none => .ok dialect
  | some name =>
    match Naming.named? name with
    | some naming => .ok (dialect.withNaming naming)
    | none => .error (.unknownNaming name)

/-- Where the artifacts of a run go. -/
def resolveOutput (file : SettingsFile) (overrides : Overrides) (environment : Environment) :
    OutputTarget :=
  (overrides.directory.map OutputTarget.directory <|> file.output
    <|> (environment Environment.outputVariable).map OutputTarget.ofVariable).getD .standardOutput

/-- The settings of a run. -/
def resolve (file : SettingsFile) (overrides : Overrides) (environment : Environment) :
    Except RunError Settings := do
  let dialect ← file.resolveDialect overrides environment
  return {
    dialect := ← file.resolveNaming overrides dialect
    output := file.resolveOutput overrides environment
    driverScript := overrides.driverScript || file.driverScript }

end SettingsFile

end SchemaCompiler
