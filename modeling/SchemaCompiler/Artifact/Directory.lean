import SchemaCompiler.Artifact
import SchemaCompiler.Error
import SchemaCompiler.Path

/-!
# Artifacts in a directory

Every artifact becomes a file of the root directory, which is created when it is missing. The first
text of a name replaces whatever an earlier run left in the file. Only plain file names are
accepted, so no artifact leaves the root; what fails leaves the results as they were.
-/

namespace SchemaCompiler

/-- A directory for artifacts, and what was written to it. -/
structure DirectoryStore where
  /-- The path of the directory. -/
  root : String
  /-- What was written, in the order in which the names first came up. -/
  results : List PersistResult := []
  deriving DecidableEq, Repr

/-- What writes artifacts to a directory. -/
abbrev DirectoryRun (m : Type → Type) :=
  ExceptT RunError (StateT DirectoryStore m)

namespace DirectoryStore

/-- Whether something was written under a name. -/
def hasName (store : DirectoryStore) (name : String) : Bool :=
  store.results.any (·.logicalName = name)

/-- Whether a text goes to the end of its file. -/
def appends (store : DirectoryStore) (name : String) : PersistMode → Bool
  | .replace => false
  | .append _ => store.hasName name

/-- The text that is written to the file of a name. -/
def addition (store : DirectoryStore) (name text : String) : PersistMode → String
  | .replace => text
  | .append delimiter => if store.hasName name then delimiter ++ text else text

variable {m : Type → Type} [Monad m] [FileSystem m]

/-- Writes a text to a file of a directory that may be missing. -/
def writeTo (root path text : String) (append : Bool) : ExceptT FileFault m Nat := do
  ExceptT.mk (FileSystem.createDirectories root)
  ExceptT.mk (FileSystem.writeText path text append)

/-- Persists an artifact under a name. -/
def persist (name : String) (artifact : TextArtifact) (mode : PersistMode) :
    DirectoryRun m PersistResult := do
  if !Path.isPlainName name then
    throw (.invalidArtifactName name)
  let store ← get
  let path := Path.join store.root (artifact.fileName name)
  let text := store.addition name artifact.text mode
  match ← (writeTo store.root path text (store.appends name mode) : ExceptT _ m _).run with
  | .error fault => throw (.persist name path fault)
  | .ok bytes =>
    let result : PersistResult := ⟨name, path, bytes⟩
    set { store with results := result.record store.results }
    return result

instance : ArtifactSink (DirectoryRun m) where
  persist := persist
  results := do return (← get).results

end DirectoryStore

end SchemaCompiler
