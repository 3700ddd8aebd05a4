import SchemaCompiler.Artifact

/-!
# Plans

A run first plans all of its artifacts, each in a bucket, and then persists them bucket by bucket.
`Plan.persistenceOrder` fixes the order. Content that is addressed to the artifact `content-all`
comes before the routines, all other content after them. Artifacts without text are left out.
-/

namespace SchemaCompiler

/-- The parts of a script in which artifacts can stand. -/
inductive Bucket
  | beforeStructs
  | main
  | structs
  | afterStructs
  | types
  | views
  | storedFunctions
  | storedProcedures
  | content
  | afterContent
  deriving DecidableEq, Repr

namespace Bucket

/-- The name of a bucket. -/
def name : Bucket → String
  | .beforeStructs => "before_structs"
  | .main => "main"
  | .structs => "structs"
  | .afterStructs => "after_structs"
  | .types => "types"
  | .views => "views"
  | .storedFunctions => "stored_functions"
  | .storedProcedures => "stored_procedures"
  | .content => "content"
  | .afterContent => "after_content"

/-- All buckets. -/
def all : List Bucket :=
  [.beforeStructs, .main, .structs, .afterStructs, .types, .views, .storedFunctions,
    .storedProcedures, .content, .afterContent]

end Bucket

/-- An artifact that is going to be persisted. -/
structure PlannedArtifact where
  /-- Where it stands. -/
  bucket : Bucket
  /-- The logical name under which it is persisted. -/
  name : String
  /-- The artifact. -/
  artifact : TextArtifact
  /-- What becomes of an earlier text of the same name. -/
  mode : PersistMode := .replace
  deriving DecidableEq, Repr

/-- The name of the artifact that receives content before any routine. -/
def allContentName : String := "content-all"

namespace PlannedArtifact

/-- Whether an artifact is addressed to the one that comes before any routine. -/
def isAllContent (planned : PlannedArtifact) : Bool :=
  planned.name == allContentName

end PlannedArtifact

/-- All artifacts of a run. -/
structure Plan where
  /-- The main artifact. -/
  main : PlannedArtifact
  /-- The other artifacts in the order in which they were planned. -/
  others : List PlannedArtifact := []
  deriving DecidableEq, Repr

namespace Plan

/-- Adds an artifact. One for the main bucket takes the place of the main artifact. -/
def push (plan : Plan) (planned : PlannedArtifact) : Plan :=
  if planned.bucket = .main then
    { plan with main := planned }
  else
    { plan with others := plan.others ++ [planned] }

/-- Adds some artifacts in turn. -/
def pushAll (plan : Plan) (planned : List PlannedArtifact) : Plan :=
  planned.foldl push plan

/-- The artifacts of a bucket other than the main artifact. -/
def filed (plan : Plan) (bucket : Bucket) : List PlannedArtifact :=
  plan.others.filter (·.bucket = bucket)

/-- All artifacts in order, with those that have no text. -/
def ordered (plan : Plan) : List PlannedArtifact :=
  plan.filed .beforeStructs ++ [plan.main] ++ plan.filed .structs ++ plan.filed .afterStructs
    ++ plan.filed .types ++ plan.filed .views
    ++ (plan.filed .content).filter (·.isAllContent)
    ++ plan.filed .storedFunctions ++ plan.filed .storedProcedures
    ++ (plan.filed .content).filter (!·.isAllContent)
    ++ plan.filed .afterContent

/-- The artifacts that are persisted, in order. -/
def persistenceOrder (plan : Plan) : List PlannedArtifact :=
  plan.ordered.filter (!·.artifact.isEmpty)

/-- Persists the artifacts of a plan. -/
def persistAll {m : Type → Type} [Monad m] [ArtifactSink m] (plan : Plan) :
    m (List PersistResult) :=
  plan.persistenceOrder.mapM fun planned =>
    ArtifactSink.persist planned.name planned.artifact planned.mode

end Plan

end SchemaCompiler
