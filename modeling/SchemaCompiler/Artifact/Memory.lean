import SchemaCompiler.Artifact

/-!
# Artifacts in memory

A store holds one artifact for each logical name, with all of its text, and keeps the results beside
them. Persisting never fails.
-/

namespace SchemaCompiler

/-- Artifacts by logical name. -/
structure MemoryStore where
  /-- The artifacts under their names, in the order in which the names first came up. -/
  contents : List (String × TextArtifact) := []
  /-- What was persisted, in the order in which the names first came up. -/
  results : List PersistResult := []
  deriving DecidableEq, Repr

namespace MemoryStore

/-- The artifact of a name. -/
def artifact? (store : MemoryStore) (name : String) : Option TextArtifact :=
  store.contents.lookup name

/-- The text of a name. -/
def text? (store : MemoryStore) (name : String) : Option String :=
  (store.artifact? name).map (·.text)

/-- The artifacts of all results. -/
def artifacts (store : MemoryStore) : List (String × TextArtifact) :=
  store.results.filterMap fun result =>
    (store.artifact? result.logicalName).map fun artifact => (result.logicalName, artifact)

/-- What is held under a name. -/
def result (name : String) (artifact : TextArtifact) : PersistResult :=
  ⟨name, artifact.fileName name, artifact.text.utf8ByteSize⟩

/-- Puts an artifact in the place of the one of its name, or at the end. -/
def place (name : String) (artifact : TextArtifact) :
    List (String × TextArtifact) → List (String × TextArtifact)
  | [] => [(name, artifact)]
  | (other, old) :: rest =>
    if other = name then
      (name, artifact) :: rest
    else
      (other, old) :: place name artifact rest

/-- The artifact that a name gets: all of its text, with the nature of the last addition. -/
def combined (store : MemoryStore) (name : String) (artifact : TextArtifact)
    (mode : PersistMode) : TextArtifact :=
  ⟨artifact.nature, mode.combine (store.text? name) artifact.text⟩

/-- Persists an artifact under a name. -/
def persist (store : MemoryStore) (name : String) (artifact : TextArtifact)
    (mode : PersistMode) : MemoryStore :=
  let whole := store.combined name artifact mode
  ⟨place name whole store.contents, (result name whole).record store.results⟩

instance : ArtifactSink (StateM MemoryStore) where
  persist name artifact mode store :=
    (result name (store.combined name artifact mode), store.persist name artifact mode)
  results store := (store.results, store)

end MemoryStore

end SchemaCompiler
