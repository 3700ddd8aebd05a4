import SchemaCompiler.CommandLine

/-!
# The program

Reads the command line, the files and the environment, and prints the report or the error.
-/

namespace SchemaCompiler

/-- The fault behind an error of the file system. -/
def FileFault.ofError : IO.Error → FileFault
  | .noFileOrDirectory .. => .notFound
  | .alreadyExists .. => .alreadyExists
  | .inappropriateType _ 21 _ => .isDirectory
  | .inappropriateType .. => .notDirectory
  | error => .other (toString error)

/-- The value of an action, or the fault that kept it from giving one. -/
def FileFault.attempt {α : Type} (action : IO α) : IO (Except FileFault α) := do
  try
    return .ok (← action)
  catch error =>
    return .error (FileFault.ofError error)

/-- Creates a directory where there is none yet. -/
def createDirectory (path : String) : IO (Except FileFault Unit) := do
  match ← FileFault.attempt (IO.FS.createDir path) with
  | .ok () => return .ok ()
  | .error fault =>
    if (← FileFault.attempt (IO.FS.readBinFile path)) matches .error .isDirectory then
      return .ok ()
    else
      return .error fault

/-- Creates the first of some directories, each of which is followed by those above it. -/
def createFirst : List String → IO (Except FileFault Unit)
  | [] => return .ok ()
  | path :: above => do
    match ← createDirectory path with
    | .error .notFound =>
      match ← createFirst above with
      | .ok () => createDirectory path
      | .error fault => return .error fault
    | other => return other

instance : FileSystem IO where
  readText path := do
    match ← FileFault.attempt (IO.FS.readBinFile path) with
    | .error fault => return .error fault
    | .ok bytes => return (String.fromUTF8? bytes).elim (.error .notText) .ok
  pathExists path := do
    return (← FileFault.attempt (IO.FS.readBinFile path)) matches .ok _ | .error .isDirectory
  createDirectories path :=
    if path.isEmpty then
      return .ok ()
    else
      createFirst ((Path.ancestors (Path.parts path)).map ("/".intercalate ·))
  writeText path text append :=
    FileFault.attempt do
      let handle ← IO.FS.Handle.mk path (if append then .append else .write)
      handle.putStr text
      handle.flush
      return (← IO.FS.readBinFile path).size

/-- The variables of the environment that matter to the program. -/
def readEnvironment : IO Environment := do
  let dialect ← IO.getEnv Environment.dialectVariable
  let output ← IO.getEnv Environment.outputVariable
  return fun name =>
    if name == Environment.dialectVariable then dialect
    else if name == Environment.outputVariable then output
    else none

end SchemaCompiler

open SchemaCompiler in
/-- Runs the program on the words of its command line. -/
def main (words : List String) : IO UInt32 := do
  match Invocation.ofWords words with
  | .error .helpRequested =>
    IO.println UsageError.helpRequested.message
    return 0
  | .error .versionRequested =>
    IO.println UsageError.versionRequested.message
    return 0
  | .error error =>
    IO.eprintln error.message
    return 2
  | .ok invocation =>
    match ← (invocation.run (← readEnvironment)).run with
    | .ok report =>
      IO.println report
      return 0
    | .error error =>
      IO.eprintln ("Error: " ++ error.message)
      return 1
