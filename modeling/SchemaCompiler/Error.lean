import SchemaCompiler.FileSystem
import SchemaCompiler.Json.Error

/-!
# Why a run fails

Generation itself never fails. What can fail is reading the model or the settings, a name that is
not known, and writing an artifact.
-/

namespace SchemaCompiler

/-- Why a run fails. -/
inductive RunError
  /-- The file of the model cannot be read. -/
  | modelRead (path : String) (fault : FileFault)
  /-- The text of the model is rejected. -/
  | modelFormat (error : Json.Error)
  /-- The file of the settings cannot be read. -/
  | settingsRead (path : String) (fault : FileFault)
  /-- The text of the settings is rejected. -/
  | settingsFormat (path : String) (error : Json.Error)
  | unknownDialect (name : String)
  | unknownNaming (name : String)
  /-- The name of an artifact is not a plain file name. -/
  | invalidArtifactName (name : String)
  /-- An artifact cannot be written. -/
  | persist (name path : String) (fault : FileFault)
  | unknownCommand (name : String)

namespace RunError

/-- The message of an error. -/
def message : RunError → String
  | .modelRead path fault => "Failed to read model file '" ++ path ++ "': " ++ fault.message
  | .modelFormat error => "Invalid model JSON: " ++ error.message
  | .settingsRead path fault => "Failed to load config '" ++ path ++ "': " ++ fault.message
  | .settingsFormat path error =>
    "Failed to load config '" ++ path ++ "': invalid JSON: " ++ error.message
  | .unknownDialect name => "Unknown dialect '" ++ name ++ "' (try `schema_forge dialects`)"
  | .unknownNaming name => "Unknown naming strategy '" ++ name ++ "'"
  | .invalidArtifactName name => "Artifact name '" ++ name ++ "' must be a plain file name"
  | .persist name path fault =>
    "Failed to persist artifact '" ++ name ++ "' to '" ++ path ++ "': " ++ fault.message
  | .unknownCommand name => "Unknown command: " ++ name

end RunError

end SchemaCompiler
